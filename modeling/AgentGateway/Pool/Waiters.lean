import AgentGateway.Pool.Bookkeeping

/-! Spending a `ShouldConnect` token: the loops of `forget_pending_connection`. -/

namespace AgentGateway.Pool

open H2Pool Library.Queue

/-! ### The notification loops -/

lemma notifyFirst_frame (race : Nat → Bool) :
    ∀ (ws : List Nat) (err : Bool) (w : World), ∃ d, (notifyFirst race ws err w).2 = { w with delivered := d }
  | [], _, w => ⟨w.delivered, rfl⟩
  | tx :: ws, err, w => by
    rw [notifyFirst]
    split
    · exact notifyFirst_frame race ws err w
    · split
      · split
        · exact notifyFirst_frame race ws true w
        · exact ⟨w.delivered, rfl⟩
      · exact ⟨_, rfl⟩

lemma notifyFirst_live (race : Nat → Bool) :
    ∀ (ws : List Nat) (err : Bool) (w : World),
      liveWaiters w.canceled (notifyFirst race ws err w).1 + 1 ≤ liveWaiters w.canceled ws ∨
        liveWaiters w.canceled (notifyFirst race ws err w).1 = 0
  | [], _, _ => Or.inr rfl
  | tx :: ws, err, w => by
    rw [notifyFirst, liveWaiters_cons]
    by_cases hcan : w.canceled tx = true
    · simp only [hcan, ↓reduceIte, Nat.add_zero]
      exact notifyFirst_live race ws err w
    simp only [hcan, Bool.false_eq_true, ↓reduceIte]
    by_cases hrace : race tx = true
    · simp only [hrace, ↓reduceIte]
      cases err
      · -- without the connect error a gone receiver ends the loop
        exact Or.inl le_rfl
      · -- the connect error comes back and goes to the next waiter
        rcases notifyFirst_live race ws true w with h | h
        · exact Or.inl (by simp only [↓reduceIte]; omega)
        · exact Or.inr (by simpa using h)
    · simp only [hrace, Bool.false_eq_true, ↓reduceIte]
      exact Or.inl le_rfl

lemma notifyRest_frame (race : Nat → Bool) (e : Error) :
    ∀ (ws : List Nat) (n : Nat) (w : World), ∃ d, (notifyRest race e ws n w).2 = { w with delivered := d }
  | [], _, w => ⟨w.delivered, rfl⟩
  | tx :: ws, n, w => by
    rw [notifyRest]
    split
    · exact ⟨w.delivered, rfl⟩
    · split
      · exact notifyRest_frame race e ws n w
      · obtain ⟨d, hd⟩ := notifyRest_frame race e ws (n - 1)
          (if race tx = true then w else deliver w tx (.err (.checkoutIsClosed e)))
        rw [hd]
        exact ⟨d, by split <;> rfl⟩

lemma notifyRest_live (race : Nat → Bool) (e : Error) :
    ∀ (ws : List Nat) (n : Nat) (w : World),
      liveWaiters w.canceled (notifyRest race e ws n w).1 + n ≤ liveWaiters w.canceled ws ∨
        liveWaiters w.canceled (notifyRest race e ws n w).1 = 0
  | [], _, _ => Or.inr rfl
  | tx :: ws, n, w => by
    rw [notifyRest]
    by_cases hn : n = 0
    · rw [if_pos hn, hn]
      exact Or.inl le_rfl
    rw [if_neg hn, liveWaiters_cons]
    by_cases hcan : w.canceled tx = true
    · simp only [hcan, ↓reduceIte, Nat.add_zero]
      exact notifyRest_live race e ws n w
    simp only [hcan, Bool.false_eq_true, ↓reduceIte]
    -- the waiter is told, or its receiver was gone: either way one fewer is owed
    have hc : (if race tx = true then w else deliver w tx (.err (.checkoutIsClosed e))).canceled = w.canceled := by
      split <;> rfl
    have ih := notifyRest_live race e ws (n - 1) (if race tx = true then w else deliver w tx (.err (.checkoutIsClosed e)))
    rw [hc] at ih
    omega

/-! ### `forget_pending_connection` -/

theorem forgetPendingConnection_spec (race : Nat → Bool) (w : World) (capacity : Nat) (err forUnder : Bool)
    (hc : forUnder = false → 1 ≤ w.host.connecting) (he : capacity ≤ w.host.expectedConnectingCapacity) :
    ∃ ws d, forgetPendingConnection race w capacity err forUnder =
        some { (w.setConnecting (if forUnder then w.host.connecting else w.host.connecting - 1)
          (w.host.expectedConnectingCapacity - capacity)).setWaiters ws with delivered := d } ∧
      (liveWaiters w.canceled ws + capacity ≤ liveWaiters w.canceled w.host.waiters ∨
        liveWaiters w.canceled ws = 0) := by
  cases forUnder with
  | true =>
    simp only [forgetPendingConnection, ↓reduceIte, Nat.psub_eq_sub he]
    generalize hw₁ : w.setConnecting w.host.connecting (w.host.expectedConnectingCapacity - capacity) = w₁
    obtain ⟨d, hd⟩ := notifyRest_frame race .connectionLowCapacity w₁.host.waiters capacity w₁
    have hl := notifyRest_live race .connectionLowCapacity w₁.host.waiters capacity w₁
    rw [hd]
    subst hw₁
    exact ⟨_, d, rfl, hl⟩
  | false =>
    simp only [forgetPendingConnection, Bool.false_eq_true, ↓reduceIte, Nat.psub_eq_sub (hc rfl),
      Nat.psub_eq_sub he]
    generalize hw₁ : w.setConnecting (w.host.connecting - 1) (w.host.expectedConnectingCapacity - capacity) = w₁
    have hcan : w₁.canceled = w.canceled := by rw [← hw₁]; rfl
    have hws : w₁.host.waiters = w.host.waiters := by rw [← hw₁]; rfl
    obtain ⟨d₁, hd₁⟩ := notifyFirst_frame race w₁.host.waiters err w₁
    have h₁ := notifyFirst_live race w₁.host.waiters err w₁
    generalize notifyFirst race w₁.host.waiters err w₁ = first at hd₁ h₁ ⊢
    obtain ⟨ws₁, w₂⟩ := first
    dsimp only at hd₁ h₁ ⊢
    subst hd₁
    obtain ⟨d₂, hd₂⟩ := notifyRest_frame race .waitingOnSharedFailedConnection ws₁ (capacity - 1)
      { w₁ with delivered := d₁ }
    have h₂ := notifyRest_live race .waitingOnSharedFailedConnection ws₁ (capacity - 1) { w₁ with delivered := d₁ }
    generalize notifyRest race .waitingOnSharedFailedConnection ws₁ (capacity - 1) { w₁ with delivered := d₁ } = rest
      at hd₂ h₂ ⊢
    obtain ⟨ws₂, w₃⟩ := rest
    dsimp only at hd₂ h₂ ⊢
    subst hd₂
    refine ⟨ws₂, d₂, by rw [← hw₁]; rfl, ?_⟩
    -- the first loop told one waiter, the second `capacity - 1` more
    rw [hcan, hws] at h₁
    rw [hcan] at h₂
    omega

/-! ### Spending a token -/

/-- A `ShouldConnect` token of expected capacity `e` is spent: its counters are taken back, and the
waiters it stood for were served or told, unless no live one is left. A connection smaller than
expected leaves its capacity in the cache. -/
structure Settled (w w' : World) (e : Nat) : Prop where
  tokens : w'.tokens = w.tokens.erase e
  connecting : w'.host.connecting = w.host.connecting - 1
  expected : w'.host.expectedConnectingCapacity = w.host.expectedConnectingCapacity - e
  canceled : w'.canceled = w.canceled
  cache : w'.host.perConnectionCapacityCache = w.host.perConnectionCapacityCache ∨
    ∃ k, 0 < k ∧ w'.host.perConnectionCapacityCache = .cached k
  live : liveWaiters w.canceled w'.host.waiters + e ≤ liveWaiters w.canceled w.host.waiters ∨
    liveWaiters w.canceled w'.host.waiters = 0

lemma forgetPendingConnection_settled (race : Nat → Bool) {w : World} (hb : Bookkeeping w) {e : Nat}
    (err : Bool) (hcon : 1 ≤ w.host.connecting) (hecc : e ≤ w.host.expectedConnectingCapacity) :
    ∃ w', forgetPendingConnection race { w with tokens := w.tokens.erase e } e err false = some w' ∧
      Bookkeeping w' ∧ Settled w w' e := by
  obtain ⟨ws, d, hw, hlive⟩ := forgetPendingConnection_spec race { w with tokens := w.tokens.erase e } e err false
    (fun _ => hcon) hecc
  exact ⟨_, hw, hb.mono rfl rfl (fun _ => id) rfl (List.Sublist.refl _),
    ⟨rfl, rfl, rfl, rfl, Or.inl rfl, hlive⟩⟩

theorem insertNewConnectionError_settled (race : Nat → Bool) {w : World} (hb : Bookkeeping w) {e : Nat}
    (hcon : 1 ≤ w.host.connecting) (hecc : e ≤ w.host.expectedConnectingCapacity) :
    ∃ w', insertNewConnectionError race w e = some w' ∧ Bookkeeping w' ∧ Settled w w' e :=
  forgetPendingConnection_settled race hb true hcon hecc

theorem dropShouldConnect_settled (race : Nat → Bool) {w : World} (hb : Bookkeeping w) {e : Nat}
    (hcon : 1 ≤ w.host.connecting) (hecc : e ≤ w.host.expectedConnectingCapacity) :
    ∃ w', dropShouldConnect race w e = some w' ∧ Bookkeeping w' ∧ Settled w w' e :=
  forgetPendingConnection_settled race hb false hcon hecc

/-! ### A new connection -/

lemma World.Fresh.not_idle {w : World} {c : Nat} (hf : w.Fresh c) : c ∉ idleH2 w.host.idle := by
  intro hm
  obtain ⟨entry, hentry, hv⟩ := List.mem_filterMap.1 hm
  apply hf.2.1 entry hentry
  revert hv
  cases entry.value <;> simp [HttpConnection.id]

lemma connect_bookkeeping {w : World} (hb : Bookkeeping w) {conn : HttpConnection} (hf : w.Fresh conn.id)
    (m : Nat) (isOpen : Bool) : Bookkeeping (w.connect conn m isOpen) := by
  have hidle := hf.not_idle
  obtain ⟨hq, -, hp, hg⟩ := hf
  have hres : w.reservations conn.id = 0 := by
    have hp' : HttpConnection.http2 conn.id ∉ w.pooled := fun hm => hp _ hm rfl
    simp [World.reservations, List.count_eq_zero_of_not_mem hp', List.count_eq_zero_of_not_mem hg]
  refine ⟨fun x => ?_, hb.nodup, hb.idleNodup, ?_⟩
  · by_cases hx : x = conn.id
    · subst hx
      refine ⟨?_, by simp [World.connect, H2Load.new], ?_, fun _ => ?_, fun h => absurd h hidle⟩
      · simp only [World.connect, Function.update_self, H2Load.new]
        omega
      · simp [World.connect, H2Load.new, World.reservations] at hres ⊢
        omega
      · simp [World.connect, H2Load.new, World.reservations] at hres ⊢
        omega
    · exact (hb.conn x).mono (by simp [World.connect, Function.update_of_ne hx]) rfl
        (by simp [World.connect, Function.update_of_ne hx]) id id
  · exact frontLoaded_update hb.frontLoaded _ fun h => absurd h hq

lemma Bookkeeping.track {w : World} {c : Nat} (hb : Bookkeeping w) (h0 : (w.loads c).activeStreams = 0)
    (hq : c ∉ w.host.activeH2) (hi : c ∉ idleH2 w.host.idle) : Bookkeeping (w.setH2 w.loads (c :: w.host.activeH2)) := by
  have hmax := (hb.conn c).maxPos
  refine ⟨fun x => ?_, List.nodup_cons.2 ⟨hq, hb.nodup⟩, hb.idleNodup, ?_⟩
  · by_cases hx : x = c
    · subst hx
      have := (hb.conn x).reservedLe
      exact ⟨hmax, by simp [h0], by simpa using this, fun _ => by simp; omega,
        fun hi' => absurd hi' hi⟩
    · exact (hb.conn x).mono rfl rfl id (fun hm => (List.mem_cons.1 hm).resolve_left hx) id
  · exact hb.frontLoaded.cons (by simp only [Avail]; omega)

lemma settled_of_sent (race : Nat → Bool) {w w₃ : World} {e cap : Nat} (hb : Bookkeeping w₃) (hpos : 0 < cap)
    (htok : w₃.tokens = w.tokens.erase e) (hcon : w₃.host.connecting = w.host.connecting - 1)
    (hexp : w₃.host.expectedConnectingCapacity = w.host.expectedConnectingCapacity - min cap e)
    (hecc : e ≤ w.host.expectedConnectingCapacity)
    (hcache : w₃.host.perConnectionCapacityCache = w.host.perConnectionCapacityCache)
    (hcan : w₃.canceled = w.canceled)
    (hlive : liveWaiters w.canceled w₃.host.waiters + cap ≤ liveWaiters w.canceled w.host.waiters ∨
      liveWaiters w.canceled w₃.host.waiters = 0) :
    ∃ w', (if cap < e then forgetPendingConnection race
        { w₃ with host := { w₃.host with perConnectionCapacityCache := .cached cap } } (e - cap) false true
      else some w₃) = some w' ∧ Bookkeeping w' ∧ Settled w w' e := by
  by_cases hlt : cap < e
  · rw [if_pos hlt]
    have he : e - cap ≤ w₃.host.expectedConnectingCapacity := by
      rw [hexp, Nat.min_eq_left (Nat.le_of_lt hlt)]
      omega
    obtain ⟨ws, d, hw, hl⟩ := forgetPendingConnection_spec race
      { w₃ with host := { w₃.host with perConnectionCapacityCache := .cached cap } } (e - cap) false true
      (fun h => absurd h Bool.noConfusion) he
    refine ⟨_, hw, hb.mono rfl rfl (fun _ => id) rfl (List.Sublist.refl _), ⟨htok, hcon, ?_, hcan,
      Or.inr ⟨cap, hpos, rfl⟩, ?_⟩⟩
    · show w₃.host.expectedConnectingCapacity - (e - cap) = _
      rw [hexp, Nat.min_eq_left (Nat.le_of_lt hlt)]
      omega
    · -- the excess waiters were told on top of those the connection served
      have hl' : liveWaiters w.canceled ws + (e - cap) ≤ liveWaiters w.canceled w₃.host.waiters ∨
          liveWaiters w.canceled ws = 0 := by
        rw [← hcan]
        exact hl
      show liveWaiters w.canceled ws + e ≤ _ ∨ liveWaiters w.canceled ws = 0
      omega
  · rw [if_neg hlt]
    refine ⟨w₃, rfl, hb, ⟨htok, hcon, ?_, hcan, Or.inl hcache, ?_⟩⟩
    · rw [hexp, Nat.min_eq_right (by omega)]
    · omega

/-- A new connection serves waiters up to the smaller of its capacity and the expected one, and the
waiters expected beyond its capacity are told to retry. -/
theorem insertNewConnection_settled (settings : PoolSettings) (race : Nat → Bool) {w : World}
    (hb : Bookkeeping w) {e : Nat} {conn : HttpConnection}
    (h2 : ∀ c, conn = .http2 c → (w.loads c).activeStreams = 0 ∧ c ∉ w.host.activeH2 ∧ c ∉ idleH2 w.host.idle)
    (hpos : 0 < conn.capacity w.loads) (hcon : 1 ≤ w.host.connecting)
    (hecc : e ≤ w.host.expectedConnectingCapacity) :
    ∃ w', insertNewConnection settings race w e conn = some w' ∧ Bookkeeping w' ∧ Settled w w' e := by
  have hmin : min (conn.capacity w.loads) e ≤ w.host.expectedConnectingCapacity :=
    le_trans (Nat.min_le_right _ _) hecc
  simp only [insertNewConnection, Nat.psub_eq_sub hcon, Nat.psub_eq_sub hmin]
  generalize hW₁ : ({ w with tokens := w.tokens.erase e } : World).setConnecting (w.host.connecting - 1)
    (w.host.expectedConnectingCapacity - min (conn.capacity w.loads) e) = W₁
  have hB : Bookkeeping W₁ := by
    rw [← hW₁]
    exact hb.mono rfl rfl (fun _ => id) rfl (List.Sublist.refl _)
  -- the connection is handed out from the world with the token spent
  obtain ⟨w₃, hw₃, hb₃, hq₃, hl₃⟩ : ∃ w₃, sendConnection settings race (conn.capacity w.loads)
      (W₁.setH2 (maybeInsertNew W₁.loads W₁.host.activeH2 conn false).1
        (maybeInsertNew W₁.loads W₁.host.activeH2 conn false).2.1)
      (maybeInsertNew W₁.loads W₁.host.activeH2 conn false).2.2 = some w₃ ∧ Bookkeeping w₃ ∧ Quiet W₁ w₃ ∧
      (liveWaiters W₁.canceled w₃.host.waiters + conn.capacity w.loads ≤ liveWaiters W₁.canceled W₁.host.waiters ∨
        liveWaiters W₁.canceled w₃.host.waiters = 0) := by
    cases conn with
    | http1 c => exact sendConnection_http1 settings race hB c
    | http2 c =>
      -- a new HTTP/2 connection is tracked at the front before it is handed out
      obtain ⟨h0, hq, hi⟩ := h2 c rfl
      have hL : W₁.loads = w.loads := by rw [← hW₁]; rfl
      have hQ : W₁.host.activeH2 = w.host.activeH2 := by rw [← hW₁]; rfl
      have hI : W₁.host.idle = w.host.idle := by rw [← hW₁]; rfl
      have hinv : SendInv c ⟨W₁.setH2 W₁.loads (c :: W₁.host.activeH2), (w.loads c).remainingCapacity,
          some (.http2 c), 0⟩ :=
        (hB.track (by rw [hL]; exact h0) (by rw [hQ]; exact hq) (by rw [hI]; exact hi)).sendInv
          (by simp [hL, h0]) (by simpa [hI] using hi) (by simp [hL, H2Load.remainingCapacity])
      obtain ⟨w₃, hw₃, hb₃, hq₃, hl₃⟩ := sendConnection_http2 settings race hinv
      exact ⟨w₃, hw₃, hb₃, (Quiet.setH2 W₁ _ _).trans hq₃, hl₃⟩
  rw [hw₃]
  subst hW₁
  exact settled_of_sent race hb₃ hpos hq₃.tokens hq₃.connecting hq₃.expected hecc hq₃.cache hq₃.canceled hl₃

end AgentGateway.Pool
