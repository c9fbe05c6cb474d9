import Mathlib
import AgentGateway.Pool.Waiters

/-! The invariant of one host's pool over every run: no subtraction underflows and no stream
is released at zero. -/

namespace AgentGateway.Pool

open H2Pool Library.Queue

structure Accounting (w : World) : Prop where
  connecting : w.host.connecting = w.tokens.length
  expected : w.host.expectedConnectingCapacity = w.tokens.sum

structure Coverage (settings : PoolSettings) (w : World) : Prop where
  tokensPos : ∀ e ∈ w.tokens, 0 < e
  cachePos : 0 < w.host.perConnectionCapacityCache.expectedCapacity settings.expectedHttp2Capacity
  live : liveWaiters w.canceled w.host.waiters ≤ w.host.expectedConnectingCapacity

structure Inv (settings : PoolSettings) (capacity : ExpectedCapacity) (w : World) : Prop where
  bookkeeping : Bookkeeping w
  accounting : Accounting w
  coverage : 0 < (CapacityCache.guess capacity).expectedCapacity settings.expectedHttp2Capacity →
    Coverage settings w

lemma liveWaiters_eq_length_filter (canceled : Nat → Bool) (ws : List Nat) :
    liveWaiters canceled ws = (ws.filter fun t => !canceled t).length :=
  List.countP_eq_length_filter

lemma liveWaiters_append_single (canceled : Nat → Bool) (ws : List Nat) (tx : Nat) :
    liveWaiters canceled (ws ++ [tx]) ≤ liveWaiters canceled ws + 1 := by
  unfold liveWaiters
  rw [List.countP_append, List.countP_singleton]
  split <;> omega

lemma liveWaiters_cancel (canceled : Nat → Bool) (tx : Nat) (ws : List Nat) :
    liveWaiters (Function.update canceled tx true) ws ≤ liveWaiters canceled ws := by
  refine List.countP_mono_left fun x _ hx => ?_
  by_cases hxt : x = tx
  · subst hxt
    simp at hx
  · simpa [Function.update_of_ne hxt] using hx

lemma Accounting.token_le {w : World} (h : Accounting w) {e : Nat} (he : e ∈ w.tokens) :
    1 ≤ w.host.connecting ∧ e ≤ w.host.expectedConnectingCapacity := by
  have hs := List.sum_erase he
  have hl := List.length_pos_of_mem he
  rw [h.connecting, h.expected]
  omega

/-! ### What a step can do to the counters -/

lemma Quiet.accounting {w w' : World} (hq : Quiet w w') (h : Accounting w) : Accounting w' :=
  ⟨by rw [hq.connecting, hq.tokens, h.connecting], by rw [hq.expected, hq.tokens, h.expected]⟩

lemma Quiet.coverage {settings : PoolSettings} {w w' : World} (hq : Quiet w w') (h : Coverage settings w) :
    Coverage settings w' where
  tokensPos e he := h.tokensPos e (hq.tokens ▸ he)
  cachePos := hq.cache ▸ h.cachePos
  live := by
    rw [hq.canceled, hq.expected]
    exact Nat.le_trans hq.live h.live

lemma Settled.accounting {w w' : World} {e : Nat} (hs : Settled w w' e) (h : Accounting w) (he : e ∈ w.tokens) :
    Accounting w' := by
  have hsum := List.sum_erase he
  have hlen := List.length_erase_of_mem he
  refine ⟨?_, ?_⟩
  · rw [hs.connecting, hs.tokens, hlen, h.connecting]
  · rw [hs.expected, hs.tokens, h.expected]
    omega

lemma Settled.coverage {settings : PoolSettings} {w w' : World} {e : Nat} (hs : Settled w w' e)
    (ha : Accounting w) (h : Coverage settings w) (he : e ∈ w.tokens) : Coverage settings w' where
  tokensPos x hx := h.tokensPos x (List.mem_of_mem_erase (hs.tokens ▸ hx))
  cachePos := by
    rcases hs.cache with hc | ⟨k, hk, hc⟩
    · rw [hc]
      exact h.cachePos
    · rw [hc]
      exact hk
  live := by
    -- the token's waiters are served or told, or none is left
    have hle := (ha.token_le he).2
    have hlive := h.live
    rw [hs.canceled, hs.expected]
    rcases hs.live with hl | hl <;> omega

lemma checkoutOrRegisterWaker_counters (settings : PoolSettings) (w : World) (tx : Nat) :
    let w' := (checkoutOrRegisterWaker settings w tx).1
    let live := w.host.waiters.filter fun t => !w.canceled t
    let expected := w.host.perConnectionCapacityCache.expectedCapacity settings.expectedHttp2Capacity
    Quiet w w' ∨
      (w'.canceled = w.canceled ∧ w'.host.perConnectionCapacityCache = w.host.perConnectionCapacityCache ∧
        w'.host.waiters = live ++ [tx] ∧
        ((w.host.expectedConnectingCapacity ≤ live.length ∧ w'.tokens = w.tokens ++ [expected] ∧
            w'.host.connecting = w.host.connecting + 1 ∧
            w'.host.expectedConnectingCapacity = w.host.expectedConnectingCapacity + expected) ∨
          (live.length < w.host.expectedConnectingCapacity ∧ w'.tokens = w.tokens ∧
            w'.host.connecting = w.host.connecting ∧
            w'.host.expectedConnectingCapacity = w.host.expectedConnectingCapacity))) := by
  intro w' live expected
  unfold w' checkoutOrRegisterWaker
  dsimp only
  split
  · -- a free stream on a tracked connection
    exact Or.inl ⟨rfl, rfl, rfl, rfl, rfl, le_rfl⟩
  · split
    · -- an idle connection
      exact Or.inl ⟨rfl, rfl, rfl, rfl, rfl, le_rfl⟩
    · split
      · rename_i hle
        exact Or.inr ⟨rfl, rfl, rfl, Or.inl ⟨hle, rfl, rfl, rfl⟩⟩
      · rename_i hlt
        exact Or.inr ⟨rfl, rfl, rfl, Or.inr ⟨Nat.lt_of_not_le hlt, rfl, rfl, rfl⟩⟩

lemma liveWaiters_filter (canceled : Nat → Bool) (ws : List Nat) :
    liveWaiters canceled (ws.filter fun t => !canceled t) = liveWaiters canceled ws := by
  simp [liveWaiters, List.countP_filter]

/-! ### The invariant over a run -/

section Run

variable {settings : PoolSettings} {capacity : ExpectedCapacity} {w : World}

lemma inv_init : Inv settings capacity (World.init capacity) where
  bookkeeping := by
    refine ⟨fun c => ⟨?_, ?_, ?_, fun _ => ?_, fun h => ?_⟩, List.nodup_nil, List.nodup_nil, frontLoaded_nil⟩ <;>
      simp [World.init, World.reservations, H2Load.new, HostPool.new] at *
  accounting := ⟨rfl, rfl⟩
  coverage hp := ⟨fun _ h => absurd h List.not_mem_nil, hp, Nat.zero_le _⟩

lemma Inv.of_quiet (h : Inv settings capacity w) {w' : World} (hb : Bookkeeping w') (hq : Quiet w w') :
    Inv settings capacity w' :=
  ⟨hb, hq.accounting h.accounting, fun hp => hq.coverage (h.coverage hp)⟩

lemma Inv.of_settled (h : Inv settings capacity w) {w' : World} {e : Nat} (he : e ∈ w.tokens)
    (hb : Bookkeeping w') (hs : Settled w w' e) : Inv settings capacity w' :=
  ⟨hb, hs.accounting h.accounting he, fun hp => hs.coverage h.accounting (h.coverage hp) he⟩

lemma Inv.checkout (h : Inv settings capacity w) (tx : Nat) :
    Inv settings capacity (checkoutOrRegisterWaker settings w tx).1 := by
  have hb := checkoutOrRegisterWaker_bookkeeping settings h.bookkeeping tx
  rcases checkoutOrRegisterWaker_counters settings w tx with hq | ⟨hcan, hcache, hws, hnew⟩
  · exact h.of_quiet hb hq
  refine ⟨hb, ?_, fun hp => ?_⟩
  · rcases hnew with ⟨-, ht, hc, he⟩ | ⟨-, ht, hc, he⟩
    · exact ⟨by rw [hc, ht, h.accounting.connecting, List.length_append, List.length_singleton],
        by rw [he, ht, h.accounting.expected, List.sum_append, List.sum_singleton]⟩
    · exact ⟨by rw [hc, ht, h.accounting.connecting], by rw [he, ht, h.accounting.expected]⟩
  have hcov := h.coverage hp
  -- the new waiter joins the live ones the filter kept
  have hlive := liveWaiters_append_single w.canceled (w.host.waiters.filter fun t => !w.canceled t) tx
  rw [liveWaiters_filter] at hlive
  have hlen := liveWaiters_eq_length_filter w.canceled w.host.waiters
  have hold := hcov.live
  refine ⟨fun x hx => ?_, by rw [hcache]; exact hcov.cachePos, ?_⟩
  · rcases hnew with ⟨-, ht, -, -⟩ | ⟨-, ht, -, -⟩
    · rw [ht, List.mem_append, List.mem_singleton] at hx
      rcases hx with hx | rfl
      · exact hcov.tokensPos x hx
      · exact hcov.cachePos
    · exact hcov.tokensPos x (ht ▸ hx)
  · rw [hcan, hws]
    rcases hnew with ⟨-, -, -, he⟩ | ⟨hlt, -, -, he⟩
    · -- a new connection is on its way for the waiters the others do not cover
      have := hcov.cachePos
      rw [he]
      omega
    · rw [he]
      omega

lemma Inv.cancel (h : Inv settings capacity w) (tx : Nat) :
    Inv settings capacity { w with canceled := Function.update w.canceled tx true } where
  bookkeeping := h.bookkeeping.mono rfl rfl (fun _ => id) rfl (List.Sublist.refl _)
  accounting := ⟨h.accounting.connecting, h.accounting.expected⟩
  coverage hp := ⟨(h.coverage hp).tokensPos, (h.coverage hp).cachePos,
    Nat.le_trans (liveWaiters_cancel _ _ _) (h.coverage hp).live⟩

lemma Inv.close (h : Inv settings capacity w) (c : Nat) :
    Inv settings capacity { w with ready := Function.update w.ready c false } := by
  refine h.of_quiet (h.bookkeeping.mono rfl rfl (fun x hx => ?_) rfl (List.Sublist.refl _))
    ⟨rfl, rfl, rfl, rfl, rfl, le_rfl⟩
  by_cases hxc : x = c
  · subst hxc
    simp at hx
  · simpa [Function.update_of_ne hxc] using hx

lemma Inv.tick (h : Inv settings capacity w) (d : Nat) : Inv settings capacity { w with now := w.now + d } :=
  h.of_quiet (h.bookkeeping.mono rfl rfl (fun _ => id) rfl (List.Sublist.refl _)) ⟨rfl, rfl, rfl, rfl, rfl, le_rfl⟩

lemma Inv.expire (h : Inv settings capacity w) (dur : Nat) :
    Inv settings capacity (clearExpired capacity dur w) := by
  unfold clearExpired
  dsimp only
  split
  · -- an empty host is dropped and comes back new: no token is out
    rename_i hempty
    simp only [Bool.and_eq_true, List.isEmpty_iff, beq_iff_eq] at hempty
    obtain ⟨⟨⟨-, hact⟩, hcon⟩, hws⟩ := hempty
    have htok : w.tokens = [] := List.eq_nil_of_length_eq_zero (h.accounting.connecting ▸ hcon)
    refine ⟨h.bookkeeping.mono rfl rfl (fun _ => id) hact.symm (List.nil_sublist _), ⟨?_, ?_⟩, fun hp => ⟨?_, hp, ?_⟩⟩
    · rw [htok]
      rfl
    · rw [htok]
      rfl
    · rw [htok]
      exact fun _ hx => absurd hx List.not_mem_nil
    · exact Nat.zero_le _
  · exact h.of_quiet (h.bookkeeping.mono rfl rfl (fun _ => id) rfl (idleH2_sublist List.filter_sublist))
      ⟨rfl, rfl, rfl, rfl, rfl, le_rfl⟩

theorem Inv.enabled_step (h : Inv settings capacity w) (race : Nat → Bool) {e : Event} (he : e.Enabled settings w) :
    ∃ w', step settings capacity race w e = some w' ∧ Inv settings capacity w' := by
  cases e with
  | checkout tx => exact ⟨_, rfl, h.checkout tx⟩
  | connected e conn m isOpen =>
    obtain ⟨hmem, hf⟩ := he
    obtain ⟨hcon, hecc⟩ := h.accounting.token_le hmem
    -- a fresh connection has no stream in use and has room for one
    have hpos : 0 < conn.capacity (w.connect conn m isOpen).loads := by
      cases conn with
      | http1 c => simp [HttpConnection.capacity]
      | http2 c =>
        simp only [HttpConnection.capacity, World.connect, HttpConnection.id, Function.update_self, H2Load.new,
          H2Load.remainingCapacity]
        omega
    have h2 : ∀ c, conn = .http2 c → ((w.connect conn m isOpen).loads c).activeStreams = 0 ∧
        c ∉ (w.connect conn m isOpen).host.activeH2 ∧ c ∉ idleH2 (w.connect conn m isOpen).host.idle := by
      rintro c rfl
      exact ⟨by simp [World.connect, HttpConnection.id, H2Load.new], hf.1, hf.not_idle⟩
    obtain ⟨w', hw, hb, hs⟩ := insertNewConnection_settled settings race
      (connect_bookkeeping h.bookkeeping hf m isOpen) h2 hpos hcon hecc
    exact ⟨w', hw, h.of_settled hmem hb ⟨hs.tokens, hs.connecting, hs.expected, hs.canceled, hs.cache, hs.live⟩⟩
  | connectFailed e =>
    obtain ⟨hcon, hecc⟩ := h.accounting.token_le he
    obtain ⟨w', hw, hb, hs⟩ := insertNewConnectionError_settled race h.bookkeeping hcon hecc
    exact ⟨w', hw, h.of_settled he hb hs⟩
  | abandon e =>
    obtain ⟨hcon, hecc⟩ := h.accounting.token_le he
    obtain ⟨w', hw, hb, hs⟩ := dropShouldConnect_settled race h.bookkeeping hcon hecc
    exact ⟨w', hw, h.of_settled he hb hs⟩
  | dropPooled v =>
    obtain ⟨w', hw, hb, hq⟩ := dropPooled_ok settings race h.bookkeeping he
    exact ⟨w', hw, h.of_quiet hb hq⟩
  | intoH2Parts load =>
    exact ⟨_, rfl, h.of_quiet (intoH2Parts_bookkeeping h.bookkeeping he) ⟨rfl, rfl, rfl, rfl, rfl, le_rfl⟩⟩
  | dropGuard load =>
    obtain ⟨w', hw, hb, hq⟩ := dropGuard_ok settings race h.bookkeeping he
    exact ⟨w', hw, h.of_quiet hb hq⟩
  | cancel tx => exact ⟨_, rfl, h.cancel tx⟩
  | close c => exact ⟨_, rfl, h.close c⟩
  | clearExpired =>
    cases ht : settings.timeout with
    | none => exact ⟨w, by simp [step, ht], h⟩
    | some dur => exact ⟨_, by simp [step, ht], h.expire dur⟩
  | tick d => exact ⟨_, rfl, h.tick d⟩

theorem Reachable.inv (hr : Reachable settings capacity w) : Inv settings capacity w := by
  induction hr with
  | init => exact inv_init
  | step e race _ he hs ih =>
    obtain ⟨w', hw', hinv⟩ := ih.enabled_step race he
    obtain rfl := Option.some.inj (hs.symm.trans hw')
    exact hinv

end Run

/-! ### Every reachable state -/

/-- In every reachable state the queue of HTTP/2 connections holds each connection once, each with
its slots in use equal to the handles holding one and within its maximum, none also idle, and a
free slot anywhere in the queue means one at its front, so a reservation finds a tracked live
connection with a free slot. No enabled event panics: no stream is released at zero and no counter
goes below zero. -/
theorem h2Queue_invariants (settings : PoolSettings) (capacity : ExpectedCapacity) {w : World}
    (hr : Reachable settings capacity w) :
    w.host.activeH2.Nodup ∧
      (∀ c ∈ w.host.activeH2, (w.loads c).activeStreams ≤ (w.loads c).maxStreams ∧
        (w.loads c).activeStreams = w.reservations c) ∧
      (∀ c ∈ w.host.activeH2, c ∉ idleH2 w.host.idle) ∧
      ((∃ c ∈ w.host.activeH2, Avail w.loads c) → ∃ a, w.host.activeH2.head? = some a ∧ Avail w.loads a) ∧
      ((∃ c ∈ w.host.activeH2, w.ready c = true ∧ Avail w.loads c) →
        ∃ x, (reserve w.ready w.loads w.host.activeH2).2.2 = some x) ∧
      ∀ (race : Nat → Bool) (e : Event), e.Enabled settings w → ∃ w', step settings capacity race w e = some w' := by
  have h := hr.inv
  have hb := h.bookkeeping
  refine ⟨hb.nodup, fun c hc => ⟨(hb.conn c).activeLe, (hb.conn c).exact (Or.inr hc)⟩,
    fun c hc hi => ((hb.conn c).idle hi).2 hc, hb.frontLoaded.head_of_exists, reserve_isSome hb.frontLoaded,
    fun race e he => ?_⟩
  obtain ⟨w', hw', -⟩ := h.enabled_step race he
  exact ⟨w', hw'⟩

theorem h2Queue_invariants_init :
    (World.init .auto).host.activeH2.Nodup ∧
      (∀ c ∈ (World.init .auto).host.activeH2, ((World.init .auto).loads c).activeStreams ≤
        ((World.init .auto).loads c).maxStreams ∧
        ((World.init .auto).loads c).activeStreams = (World.init .auto).reservations c) ∧
      (∀ c ∈ (World.init .auto).host.activeH2, c ∉ idleH2 (World.init .auto).host.idle) ∧
      ((∃ c ∈ (World.init .auto).host.activeH2, Avail (World.init .auto).loads c) →
        ∃ a, (World.init .auto).host.activeH2.head? = some a ∧ Avail (World.init .auto).loads a) ∧
      ((∃ c ∈ (World.init .auto).host.activeH2, (World.init .auto).ready c = true ∧ Avail (World.init .auto).loads c) →
        ∃ x, (reserve (World.init .auto).ready (World.init .auto).loads (World.init .auto).host.activeH2).2.2 = some x) ∧
      ∀ (race : Nat → Bool) (e : Event), e.Enabled ⟨1, some 90, 100⟩ (World.init .auto) →
        ∃ w', step ⟨1, some 90, 100⟩ .auto race (World.init .auto) e = some w' :=
  h2Queue_invariants ⟨1, some 90, 100⟩ .auto Reachable.init

/-- In every reachable state the connections on their way are the `ShouldConnect` tokens out, in
number and in expected capacity, so settling a token never takes a counter below zero; and when the
first guess of a connection's capacity is at least one, every expected capacity is, and the live
waiters never exceed the capacity on its way: each waits for a connection that will serve it or
tell it to retry. -/
theorem waiters_covered (settings : PoolSettings) (capacity : ExpectedCapacity) {w : World}
    (hr : Reachable settings capacity w) :
    w.host.connecting = w.tokens.length ∧ w.host.expectedConnectingCapacity = w.tokens.sum ∧
      (∀ (race : Nat → Bool), ∀ e ∈ w.tokens,
        (∃ w', insertNewConnectionError race w e = some w') ∧ (∃ w', dropShouldConnect race w e = some w') ∧
        ∀ conn m isOpen, w.Fresh (HttpConnection.id conn) →
          ∃ w', insertNewConnection settings race (w.connect conn m isOpen) e conn = some w') ∧
      (0 < (CapacityCache.guess capacity).expectedCapacity settings.expectedHttp2Capacity →
        (∀ e ∈ w.tokens, 0 < e) ∧ liveWaiters w.canceled w.host.waiters ≤ w.host.expectedConnectingCapacity) := by
  have h := hr.inv
  refine ⟨h.accounting.connecting, h.accounting.expected, fun race e he => ⟨?_, ?_, fun conn m isOpen hf => ?_⟩,
    fun hp => ⟨(h.coverage hp).tokensPos, (h.coverage hp).live⟩⟩
  · obtain ⟨w', hw', -⟩ := h.enabled_step race (e := .connectFailed e) he
    exact ⟨w', hw'⟩
  · obtain ⟨w', hw', -⟩ := h.enabled_step race (e := .abandon e) he
    exact ⟨w', hw'⟩
  · obtain ⟨w', hw', -⟩ := h.enabled_step race (e := .connected e conn m isOpen) ⟨he, hf⟩
    exact ⟨w', hw'⟩

theorem waiters_covered_init :
    (World.init .auto).host.connecting = (World.init .auto).tokens.length ∧
      (World.init .auto).host.expectedConnectingCapacity = (World.init .auto).tokens.sum ∧
      (∀ (race : Nat → Bool), ∀ e ∈ (World.init .auto).tokens,
        (∃ w', insertNewConnectionError race (World.init .auto) e = some w') ∧
        (∃ w', dropShouldConnect race (World.init .auto) e = some w') ∧
        ∀ conn m isOpen, (World.init .auto).Fresh (HttpConnection.id conn) →
          ∃ w', insertNewConnection ⟨1, some 90, 100⟩ race ((World.init .auto).connect conn m isOpen) e conn =
            some w') ∧
      (∀ e ∈ (World.init .auto).tokens, 0 < e) ∧
      liveWaiters (World.init .auto).canceled (World.init .auto).host.waiters ≤
        (World.init .auto).host.expectedConnectingCapacity :=
  have h := waiters_covered ⟨1, some 90, 100⟩ .auto Reachable.init
  ⟨h.1, h.2.1, h.2.2.1, h.2.2.2 (by decide)⟩

end AgentGateway.Pool
