import AgentGateway.Pool.Run

/-! The HTTP/2 bookkeeping of a host pool: loads, slots held by handles, and the order of the
queue. -/

namespace AgentGateway.Pool

open H2Pool Library.Queue

def idleH2 (idle : List Idle) : List Nat :=
  idle.filterMap fun entry => match entry.value with
    | .http2 h => some h
    | .http1 _ => none

structure ConnInv (w : World) (c : Nat) : Prop where
  maxPos : 0 < (w.loads c).maxStreams
  activeLe : (w.loads c).activeStreams ≤ (w.loads c).maxStreams
  reservedLe : w.reservations c ≤ (w.loads c).activeStreams
  exact : w.ready c = true ∨ c ∈ w.host.activeH2 → (w.loads c).activeStreams = w.reservations c
  idle : c ∈ idleH2 w.host.idle → (w.loads c).activeStreams = 0 ∧ c ∉ w.host.activeH2

structure Bookkeeping (w : World) : Prop where
  conn : ∀ c, ConnInv w c
  nodup : w.host.activeH2.Nodup
  idleNodup : (idleH2 w.host.idle).Nodup
  frontLoaded : FrontLoaded (Avail w.loads) w.host.activeH2

lemma ConnInv.mono {w w' : World} {c : Nat} (h : ConnInv w c) (hl : w'.loads c = w.loads c)
    (hres : w'.reservations c = w.reservations c) (hr : w'.ready c = true → w.ready c = true)
    (ha : c ∈ w'.host.activeH2 → c ∈ w.host.activeH2)
    (hi : c ∈ idleH2 w'.host.idle → c ∈ idleH2 w.host.idle) : ConnInv w' c where
  maxPos := hl ▸ h.maxPos
  activeLe := hl ▸ h.activeLe
  reservedLe := hl ▸ hres ▸ h.reservedLe
  exact hc := by
    rw [hl, hres]
    exact h.exact (hc.imp hr ha)
  idle hc := by
    obtain ⟨h0, hna⟩ := h.idle (hi hc)
    exact ⟨hl ▸ h0, fun hca => hna (ha hca)⟩

/-! ### Handles -/

lemma reservations_append_pooled (w : World) (v : HttpConnection) (c : Nat) :
    ({ w with pooled := w.pooled ++ [v] } : World).reservations c =
      w.reservations c + if v = .http2 c then 1 else 0 := by
  by_cases hv : v = .http2 c
  · subst hv
    simp [World.reservations, List.count_append]
    omega
  · simp [World.reservations, List.count_append, hv]

lemma reservations_append_pooled_ne (w : World) {v : HttpConnection} {c : Nat} (hv : v ≠ .http2 c) :
    ({ w with pooled := w.pooled ++ [v] } : World).reservations c = w.reservations c := by
  rw [reservations_append_pooled, if_neg hv, Nat.add_zero]

lemma reservations_erase_pooled (w : World) (v : HttpConnection) (c : Nat) :
    ({ w with pooled := w.pooled.erase v } : World).reservations c =
      w.reservations c - if v = .http2 c ∧ v ∈ w.pooled then 1 else 0 := by
  unfold World.reservations
  by_cases hv : v = .http2 c
  · subst hv
    by_cases hm : HttpConnection.http2 c ∈ w.pooled
    · simp only [List.count_erase_self, hm, and_self, if_true]
      have := List.count_pos_iff.2 hm
      omega
    · simp [List.erase_of_not_mem hm, hm]
  · simp [List.count_erase_of_ne (Ne.symm hv), hv]

lemma reservations_erase_guards (w : World) (load c : Nat) :
    ({ w with guards := w.guards.erase load } : World).reservations c =
      w.reservations c - if load = c ∧ load ∈ w.guards then 1 else 0 := by
  unfold World.reservations
  by_cases hl : load = c
  · subst hl
    by_cases hm : load ∈ w.guards
    · simp only [List.count_erase_self, hm, and_self, if_true]
      have := List.count_pos_iff.2 hm
      omega
    · simp [List.erase_of_not_mem hm, hm]
  · simp [List.count_erase_of_ne (Ne.symm hl), hl]

/-! ### Idle connections -/

@[simp] lemma idleH2_nil : idleH2 [] = [] := rfl

@[simp] lemma idleH2_append (l₁ l₂ : List Idle) : idleH2 (l₁ ++ l₂) = idleH2 l₁ ++ idleH2 l₂ :=
  List.filterMap_append

@[simp] lemma idleH2_http2 (t h : Nat) : idleH2 [⟨t, .http2 h⟩] = [h] := rfl

@[simp] lemma idleH2_http1 (t h : Nat) : idleH2 [⟨t, .http1 h⟩] = [] := rfl

lemma idleH2_sublist {l l' : List Idle} (h : List.Sublist l' l) : List.Sublist (idleH2 l') (idleH2 l) :=
  h.filterMap _

lemma pushIdleWithCap_sublist (n : Nat) (idle : List Idle) (v : HttpConnection) (t : Nat) :
    List.Sublist (pushIdleWithCap n idle v t) (idle ++ [⟨t, v⟩]) := by
  unfold pushIdleWithCap
  split
  · exact List.sublist_append_left _ _
  · split
    · exact (List.tail_sublist idle).append_right _
    · exact List.Sublist.refl _

lemma idleH2_entry (t : Nat) (v : HttpConnection) :
    idleH2 [⟨t, v⟩] = match v with
      | .http2 h => [h]
      | .http1 _ => [] := by
  cases v <;> rfl

lemma mem_idleH2_pushIdleWithCap {n t x : Nat} {idle : List Idle} {v : HttpConnection}
    (hx : x ∈ idleH2 (pushIdleWithCap n idle v t)) : x ∈ idleH2 idle ∨ v = .http2 x := by
  have hs := (idleH2_sublist (pushIdleWithCap_sublist n idle v t)).subset hx
  rw [idleH2_append, List.mem_append, idleH2_entry] at hs
  rcases hs with hs | hs
  · exact Or.inl hs
  · cases v <;> simp_all

lemma nodup_idleH2_pushIdleWithCap {n t : Nat} {idle : List Idle} {v : HttpConnection}
    (h : (idleH2 idle).Nodup) (hv : ∀ c, v = .http2 c → c ∉ idleH2 idle) :
    (idleH2 (pushIdleWithCap n idle v t)).Nodup := by
  refine List.Nodup.sublist (idleH2_sublist (pushIdleWithCap_sublist n idle v t)) ?_
  rw [idleH2_append, idleH2_entry]
  cases v with
  | http1 _ => simpa using h
  | http2 c =>
    rw [List.nodup_append]
    refine ⟨h, List.nodup_singleton c, fun a ha b hb => ?_⟩
    rw [List.mem_singleton] at hb
    subst hb
    rintro rfl
    exact hv _ rfl ha

lemma popIdle_some {ready : Nat → Bool} {timeout : Option Nat} {now : Nat} :
    ∀ {l rest : List Idle} {e : Idle}, popIdle ready timeout now l = (rest, some e) →
      (∃ dropped, l = dropped ++ e :: rest) ∧ e.value.isOpen ready = true
  | [], _, _, h => by simp [popIdle] at h
  | entry :: l, rest, e, h => by
    unfold popIdle at h
    split at h
    · obtain ⟨⟨dropped, hl⟩, ho⟩ := popIdle_some h
      exact ⟨⟨entry :: dropped, by rw [hl]; rfl⟩, ho⟩
    · split at h
      · obtain ⟨⟨dropped, hl⟩, ho⟩ := popIdle_some h
        exact ⟨⟨entry :: dropped, by rw [hl]; rfl⟩, ho⟩
      · rename_i hopen _
        cases h
        exact ⟨⟨[], rfl⟩, by simpa using hopen⟩

lemma popIdle_none {ready : Nat → Bool} {timeout : Option Nat} {now : Nat} :
    ∀ {l rest : List Idle}, popIdle ready timeout now l = (rest, none) → rest = []
  | [], _, h => by simp [popIdle] at h; exact h
  | entry :: l, rest, h => by
    unfold popIdle at h
    split at h
    · exact popIdle_none h
    · split at h
      · exact popIdle_none h
      · cases h

lemma IdlePopper.pop_some {ready : Nat → Bool} {timeout : Option Nat} {now : Nat} {idle : List Idle}
    {e : Idle} (h : (IdlePopper.pop ready timeout now idle).2 = some e) :
    List.Sublist ((IdlePopper.pop ready timeout now idle).1 ++ [e]) idle ∧ e.value.isOpen ready = true := by
  unfold IdlePopper.pop at h ⊢
  rcases hr : popIdle ready timeout now idle.reverse with ⟨rest, got⟩
  rw [hr] at h
  cases h
  obtain ⟨⟨dropped, hl⟩, ho⟩ := popIdle_some hr
  refine ⟨?_, ho⟩
  have hidle : idle = rest.reverse ++ [e] ++ dropped.reverse := by
    rw [← List.reverse_reverse idle, hl]
    simp
  rw [hidle]
  exact List.sublist_append_left _ _

lemma IdlePopper.pop_none {ready : Nat → Bool} {timeout : Option Nat} {now : Nat} {idle : List Idle}
    (h : (IdlePopper.pop ready timeout now idle).2 = none) : (IdlePopper.pop ready timeout now idle).1 = [] := by
  unfold IdlePopper.pop at h ⊢
  rcases hr : popIdle ready timeout now idle.reverse with ⟨rest, got⟩
  rw [hr] at h
  cases h
  rw [popIdle_none hr]
  rfl


/-! ### Taking a stream off the front -/

section Reserve

variable {ready : Nat → Bool} {loads : Nat → H2Load}

lemma reserve_cons (h : Nat) (q : List Nat) :
    reserve ready loads (h :: q) =
      if ready h = false then reserve ready loads q
      else if Avail loads h then
        (Function.update loads h { loads h with activeStreams := (loads h).activeStreams + 1 },
          if (loads h).activeStreams + 1 ≥ (loads h).maxStreams then q ++ [h] else h :: q, some h)
      else (loads, h :: q, none) := by
  rw [reserve]
  by_cases hr : ready h = false
  · simp [hr]
  · by_cases ha : Avail loads h
    · rw [H2Load.tryReserveStreamSlot_of_lt ha]
      by_cases hf : (loads h).activeStreams + 1 ≥ (loads h).maxStreams <;> simp [hr, ha, hf]
    · rw [H2Load.tryReserveStreamSlot_of_le (Nat.le_of_not_lt ha)]
      simp [hr, ha]

lemma reserve_subset : ∀ {q : List Nat} {x : Nat}, x ∈ (reserve ready loads q).2.1 → x ∈ q
  | [], _, hx => by simp [reserve] at hx
  | h :: q, x, hx => by
    rw [reserve_cons] at hx
    split_ifs at hx with hr ha hf
    · exact List.mem_cons_of_mem h (reserve_subset hx)
    · simp only [List.mem_append, List.mem_singleton] at hx
      rcases hx with hx | rfl
      · exact List.mem_cons_of_mem _ hx
      · exact List.mem_cons_self
    · exact hx
    · exact hx

lemma reserve_nodup : ∀ {q : List Nat}, q.Nodup → (reserve ready loads q).2.1.Nodup
  | [], _ => List.nodup_nil
  | h :: q, hn => by
    rw [reserve_cons]
    obtain ⟨hh, hq⟩ := List.nodup_cons.1 hn
    split_ifs with hr ha hf
    · exact reserve_nodup hq
    · rw [List.nodup_append]
      refine ⟨hq, List.nodup_singleton h, fun a hmem b hb => ?_⟩
      rw [List.mem_singleton] at hb
      subst hb
      rintro rfl
      exact hh hmem
    · exact hn
    · exact hn

lemma reserve_frontLoaded : ∀ {q : List Nat}, q.Nodup → FrontLoaded (Avail loads) q →
    FrontLoaded (Avail (reserve ready loads q).1) (reserve ready loads q).2.1
  | [], _, _ => frontLoaded_nil
  | h :: q, hn, hf => by
    rw [reserve_cons]
    obtain ⟨hh, hq⟩ := List.nodup_cons.1 hn
    split_ifs with hr ha hfill
    · exact reserve_frontLoaded hq hf.of_cons
    · -- the front fills up and goes to the back
      have hq' : FrontLoaded (Avail (Function.update loads h
          { loads h with activeStreams := (loads h).activeStreams + 1 })) q :=
        hf.of_cons.congr fun x hx => (avail_update_ne _ fun hxh => hh (by subst hxh; exact hx)).symm
      refine hq'.append_of_not ?_
      simp only [Avail, Function.update_self]
      omega
    · refine frontLoaded_update hf _ fun _ => ?_
      simp only [Avail, Function.update_self] at ha ⊢
      omega
    · exact hf

lemma reserve_none : ∀ {q : List Nat}, FrontLoaded (Avail loads) q → (reserve ready loads q).2.2 = none →
    (reserve ready loads q).1 = loads ∧ ∀ x ∈ (reserve ready loads q).2.1, ¬ Avail loads x
  | [], _, _ => ⟨rfl, by simp [reserve]⟩
  | h :: q, hf, hnone => by
    rw [reserve_cons] at hnone ⊢
    split_ifs at hnone ⊢ with hr ha
    · exact reserve_none hf.of_cons hnone
    · exact ⟨rfl, hf.forall_not_of_head ha⟩

lemma reserve_some : ∀ {q : List Nat} {x : Nat}, (reserve ready loads q).2.2 = some x →
    x ∈ q ∧ x ∈ (reserve ready loads q).2.1 ∧ ready x = true ∧ Avail loads x ∧
      (reserve ready loads q).1 = Function.update loads x { loads x with activeStreams := (loads x).activeStreams + 1 }
  | [], _, hx => by simp [reserve] at hx
  | h :: q, x, hx => by
    rw [reserve_cons] at hx ⊢
    split_ifs at hx ⊢ with hr ha hfill
    · obtain ⟨hq, hmem, hrx, hax, hl⟩ := reserve_some hx
      exact ⟨List.mem_cons_of_mem h hq, hmem, hrx, hax, hl⟩
    · cases hx
      exact ⟨List.mem_cons_self, by simp, by simpa using hr, ha, rfl⟩
    · cases hx
      exact ⟨List.mem_cons_self, List.mem_cons_self, by simpa using hr, ha, rfl⟩

lemma reserve_isSome : ∀ {q : List Nat}, FrontLoaded (Avail loads) q → (∃ c ∈ q, ready c = true ∧ Avail loads c) →
    ∃ x, (reserve ready loads q).2.2 = some x
  | [], _, ⟨_, hc, _⟩ => absurd hc List.not_mem_nil
  | h :: q, hf, ⟨c, hc, hrc, hac⟩ => by
    rw [reserve_cons]
    split_ifs with hr ha hfill
    · -- the dead front entry is dropped
      refine reserve_isSome hf.of_cons ⟨c, ?_, hrc, hac⟩
      rcases List.mem_cons.1 hc with rfl | hc
      · rw [hr] at hrc
        cases hrc
      · exact hc
    · exact ⟨h, rfl⟩
    · exact ⟨h, rfl⟩
    · exact absurd hac (hf.forall_not_of_head ha c hc)

end Reserve

/-! ### Handing out an HTTP/2 connection -/

@[simp] lemma reservations_setH2 (w : World) (loads : Nat → H2Load) (q : List Nat) :
    (w.setH2 loads q).reservations = w.reservations := rfl

@[simp] lemma reservations_setWaiters (w : World) (ws : List Nat) :
    (w.setWaiters ws).reservations = w.reservations := rfl

@[simp] lemma reservations_setIdle (w : World) (idle : List Idle) :
    (w.setIdle idle).reservations = w.reservations := rfl

@[simp] lemma reservations_setConnecting (w : World) (n e : Nat) :
    (w.setConnecting n e).reservations = w.reservations := rfl

lemma reservations_sendPooled (w : World) (tx : Nat) (v : HttpConnection) (c : Nat) :
    (w.sendPooled tx v).reservations c = w.reservations c + if v = .http2 c then 1 else 0 :=
  reservations_append_pooled w v c

@[simp] lemma World.setH2_setH2 (w : World) (l l' : Nat → H2Load) (q q' : List Nat) :
    (w.setH2 l q).setH2 l' q' = w.setH2 l' q' := rfl

lemma releaseH2StreamWithoutReturningToIdle_http2 {w : World} {h2 : Nat} (hpos : 0 < (w.loads h2).activeStreams) :
    releaseH2StreamWithoutReturningToIdle w (.http2 h2) =
      let w' := w.setH2 (Function.update w.loads h2
        { w.loads h2 with activeStreams := (w.loads h2).activeStreams - 1 }) w.host.activeH2
      if (w.loads h2).activeStreams - 1 = 0 then some w'
      else if (w.loads h2).activeStreams = (w.loads h2).maxStreams then
        some (w'.setH2 w'.loads (markActiveByLoad w'.host.activeH2 h2))
      else some w' := by
  simp only [releaseH2StreamWithoutReturningToIdle, H2Load.releaseStreamSlot_of_pos hpos, decide_eq_true_eq]

/-- The loop of `send_connection` handing out an HTTP/2 connection `c` that had no stream in use:
each slot it holds went to a waiter that got it, and it has a slot for every turn left. It may sit
out of order only while it holds nothing and has a single slot, after a waiter went away. -/
structure SendInv (c : Nat) (st : SendState) : Prop where
  next : st.nextConn = some (.http2 c)
  others : ∀ x, x ≠ c → ConnInv st.world x
  active : (st.world.loads c).activeStreams = st.sent
  reserved : st.world.reservations c = st.sent
  room : st.sent + st.capacity ≤ (st.world.loads c).maxStreams
  maxPos : 0 < (st.world.loads c).maxStreams
  notIdle : c ∉ idleH2 st.world.host.idle
  nodup : st.world.host.activeH2.Nodup
  idleNodup : (idleH2 st.world.host.idle).Nodup
  order : FrontLoaded (Avail st.world.loads) st.world.host.activeH2 ∨
    (FrontLoaded (Avail st.world.loads) (st.world.host.activeH2.erase c) ∧ st.sent = 0 ∧
      (st.world.loads c).maxStreams = 1)
  tracked : 0 < st.sent → c ∈ st.world.host.activeH2

namespace SendInv

variable {c : Nat} {st : SendState}

lemma frontLoaded_erase (h : SendInv c st) :
    FrontLoaded (Avail st.world.loads) (st.world.host.activeH2.erase c) := by
  rcases h.order with ho | ⟨ho, -⟩
  · exact ho.erase c
  · exact ho

lemma lt_max (h : SendInv c st) (hcap : st.capacity ≠ 0) :
    (st.world.loads c).activeStreams < (st.world.loads c).maxStreams := by
  have := h.room
  have := h.active
  omega

lemma reserve_ne (h : SendInv c st) (hcap : st.capacity ≠ 0) :
    (incrementLoad st.world.loads st.world.host.activeH2 (.http2 c)).2.2 ≠ some .noCapacity := by
  rw [incrementLoad_http2, H2Load.tryReserveStreamSlot_of_lt (h.lt_max hcap)]
  split <;> simp

lemma incrementLoad_fst (h : SendInv c st) (hcap : st.capacity ≠ 0) :
    (incrementLoad st.world.loads st.world.host.activeH2 (.http2 c)).1 =
      Function.update st.world.loads c
        { st.world.loads c with activeStreams := (st.world.loads c).activeStreams + 1 } := by
  rw [incrementLoad_http2, H2Load.tryReserveStreamSlot_of_lt (h.lt_max hcap)]

lemma incrementLoad_snd (h : SendInv c st) (hcap : st.capacity ≠ 0) :
    (incrementLoad st.world.loads st.world.host.activeH2 (.http2 c)).2.1 =
      if (st.world.loads c).activeStreams + 1 ≥ (st.world.loads c).maxStreams then
        markFull st.world.host.activeH2 c else st.world.host.activeH2 := by
  rw [incrementLoad_http2, H2Load.tryReserveStreamSlot_of_lt (h.lt_max hcap)]
  by_cases hf : (st.world.loads c).activeStreams + 1 ≥ (st.world.loads c).maxStreams <;> simp [hf]

lemma mem_of_mem_incrementLoad (h : SendInv c st) (hcap : st.capacity ≠ 0) {x : Nat}
    (hx : x ∈ (incrementLoad st.world.loads st.world.host.activeH2 (.http2 c)).2.1) :
    x ∈ st.world.host.activeH2 := by
  rw [h.incrementLoad_snd hcap] at hx
  split at hx
  · exact (mem_markFull h.nodup).1 hx
  · exact hx

lemma nodup_incrementLoad (h : SendInv c st) (hcap : st.capacity ≠ 0) :
    (incrementLoad st.world.loads st.world.host.activeH2 (.http2 c)).2.1.Nodup := by
  rw [h.incrementLoad_snd hcap]
  split
  · exact nodup_markFull h.nodup
  · exact h.nodup

lemma sendOk (h : SendInv c st) (hcap : st.capacity ≠ 0) (tx : Nat) :
    let r := incrementLoad st.world.loads st.world.host.activeH2 (.http2 c)
    let w := (st.world.setH2 r.1 r.2.1).sendPooled tx (.http2 c)
    SendInv c ⟨w.setH2 w.loads (ensureTracked w.loads w.host.activeH2 c), st.capacity - 1, some (.http2 c),
      st.sent + 1⟩ := by
  intro r w
  have hL : w.loads = Function.update st.world.loads c
      { st.world.loads c with activeStreams := (st.world.loads c).activeStreams + 1 } :=
    h.incrementLoad_fst hcap
  have hQ : w.host.activeH2 = r.2.1 := rfl
  have hlt := h.lt_max hcap
  constructor
  · rfl
  · intro x hx
    refine (h.others x hx).mono ?_ ?_ id ?_ id
    · simp [hL, Function.update_of_ne hx]
    · show (st.world.sendPooled tx (.http2 c)).reservations x = _
      rw [reservations_sendPooled, if_neg (fun hcx => hx (HttpConnection.http2.inj hcx).symm), Nat.add_zero]
    · intro hmem
      rcases (mem_ensureTracked _).1 hmem with hmem | hmem
      · exact h.mem_of_mem_incrementLoad hcap hmem
      · exact absurd hmem hx
  · simp [hL, h.active]
  · show (st.world.sendPooled tx (.http2 c)).reservations c = _
    rw [reservations_sendPooled, if_pos rfl, h.reserved]
  · simp only [World.setH2_loads', hL, Function.update_self]
    have := h.room
    omega
  · simpa [hL] using h.maxPos
  · exact h.notIdle
  · exact nodup_ensureTracked _ (h.nodup_incrementLoad hcap)
  · exact h.idleNodup
  · left
    refine frontLoaded_ensureTracked ?_
    rw [World.setH2_loads', hQ, h.incrementLoad_snd hcap, hL]
    split
    · -- `c` filled up and went to the back
      rename_i hfill
      refine frontLoaded_markFull ?_ ?_
      · refine h.frontLoaded_erase.congr fun x hx => (avail_update_ne _ ?_).symm
        exact fun hxc => List.Nodup.not_mem_erase h.nodup (hxc ▸ hx)
      · simp only [Avail, Function.update_self]
        omega
    · rename_i hfill
      rcases h.order with ho | ⟨-, hs, hm⟩
      · refine frontLoaded_update ho _ fun _ => ?_
        simp only [Avail, Function.update_self]
        omega
      · have := h.active
        omega
  · intro _
    exact (mem_ensureTracked _).2 (Or.inr rfl)

lemma withQueue (h : SendInv c st) {Q : List Nat} (hn : Q.Nodup)
    (hsub : ∀ x, x ≠ c → x ∈ Q → x ∈ st.world.host.activeH2) (ht : 0 < st.sent → c ∈ Q)
    (ho : FrontLoaded (Avail st.world.loads) Q ∨
      (FrontLoaded (Avail st.world.loads) (Q.erase c) ∧ st.sent = 0 ∧ (st.world.loads c).maxStreams = 1)) :
    SendInv c { st with world := st.world.setH2 st.world.loads Q } where
  next := h.next
  others x hx := (h.others x hx).mono rfl rfl id (hsub x hx) id
  active := h.active
  reserved := h.reserved
  room := h.room
  maxPos := h.maxPos
  notIdle := h.notIdle
  nodup := hn
  idleNodup := h.idleNodup
  order := ho
  tracked := ht

lemma giveBack (h : SendInv c st) (hcap : st.capacity ≠ 0) :
    let r := incrementLoad st.world.loads st.world.host.activeH2 (.http2 c)
    ∃ w, releaseH2StreamWithoutReturningToIdle (st.world.setH2 r.1 r.2.1) (.http2 c) = some w ∧
      SendInv c { st with world := w, nextConn := some (.http2 c) } := by
  intro r
  have hlt := h.lt_max hcap
  have hL : r.1 = Function.update st.world.loads c
      { st.world.loads c with activeStreams := (st.world.loads c).activeStreams + 1 } :=
    h.incrementLoad_fst hcap
  have hQ : r.2.1 = if (st.world.loads c).activeStreams + 1 ≥ (st.world.loads c).maxStreams then
      markFull st.world.host.activeH2 c else st.world.host.activeH2 :=
    h.incrementLoad_snd hcap
  have hn₁ : r.2.1.Nodup := h.nodup_incrementLoad hcap
  have hsub₁ : ∀ x, x ∈ r.2.1 → x ∈ st.world.host.activeH2 := fun _ hx => h.mem_of_mem_incrementLoad hcap hx
  have hpos : 0 < ((st.world.setH2 r.1 r.2.1).loads c).activeStreams := by
    simp [hL]
  rw [releaseH2StreamWithoutReturningToIdle_http2 hpos]
  have hact : (r.1 c).activeStreams = (st.world.loads c).activeStreams + 1 := by
    simp [hL]
  have hmax : (r.1 c).maxStreams = (st.world.loads c).maxStreams := by
    simp [hL]
  -- giving the slot back restores the loads
  have hback : Function.update r.1 c
      (⟨(st.world.loads c).activeStreams, (st.world.loads c).maxStreams⟩ : H2Load) = st.world.loads := by
    funext x
    by_cases hx : x = c
    · subst hx
      simp
    · simp [hL, Function.update_of_ne hx]
  simp only [World.setH2_setH2, World.setH2_loads', World.setH2_host_activeH2, hact, hmax,
    Nat.add_sub_cancel]
  rw [hback]
  rcases st with ⟨w₀, cap, next, sent⟩
  obtain rfl : next = some (.http2 c) := h.next
  dsimp only at *
  by_cases hfill : (w₀.loads c).activeStreams + 1 ≥ (w₀.loads c).maxStreams
  · -- `c` had filled up and sits at the back
    have hQ₁ : r.2.1 = markFull w₀.host.activeH2 c := by rw [hQ, if_pos hfill]
    have herase : FrontLoaded (Avail w₀.loads) (r.2.1.erase c) := by
      rw [hQ₁, erase_markFull h.nodup]
      exact h.frontLoaded_erase
    have htr : sent > 0 → c ∈ r.2.1 := fun hs => by
      rw [hQ₁, mem_markFull h.nodup]
      exact h.tracked hs
    by_cases hzero : (w₀.loads c).activeStreams = 0
    · rw [if_pos hzero]
      refine ⟨_, rfl, h.withQueue hn₁ (fun x _ hx => hsub₁ x hx) htr (Or.inr ⟨herase, ?_, ?_⟩)⟩
      · have := h.active
        dsimp only at this ⊢
        omega
      · dsimp only
        omega
    · rw [if_neg hzero, if_pos (by omega)]
      refine ⟨_, rfl, h.withQueue (nodup_markActiveByLoad hn₁) ?_ ?_ ?_⟩
      · intro x _ hx
        exact hsub₁ x ((mem_markActiveByLoad hn₁).1 hx)
      · intro hs
        exact (mem_markActiveByLoad hn₁).2 (htr hs)
      · exact Or.inl (frontLoaded_markActiveByLoad herase hlt)
  · -- `c` stayed where it was
    have hQ₁ : r.2.1 = w₀.host.activeH2 := by rw [hQ, if_neg hfill]
    have hkeep := h.withQueue (Q := r.2.1) hn₁ (fun x _ hx => hsub₁ x hx) (hQ₁ ▸ h.tracked) (hQ₁ ▸ h.order)
    by_cases hzero : (w₀.loads c).activeStreams = 0
    · rw [if_pos hzero]
      exact ⟨_, rfl, hkeep⟩
    · rw [if_neg hzero, if_neg (by omega)]
      exact ⟨_, rfl, hkeep⟩

end SendInv

/-- A turn of the loop on a live waiter keeps the invariant: the waiter gets `c`, or went away
and the slot came back. The loop stops only once its capacity is spent or no waiter is left. -/
theorem sendLoop_http2 (race : Nat → Bool) {c : Nat} : ∀ (ws : List Nat) (st : SendState), SendInv c st →
    ∃ ws' st', sendLoop race ws st = some (ws', st') ∧ SendInv c st' ∧ (ws' = [] ∨ st'.capacity = 0)
  | [], st, h => ⟨[], st, rfl, h, Or.inl rfl⟩
  | tx :: ws, st, h => by
    by_cases hcap : st.capacity = 0
    · exact ⟨tx :: ws, st, by simp [sendLoop, hcap], h, Or.inr hcap⟩
    by_cases hcan : st.world.canceled tx = true
    · rw [sendLoop, if_neg hcap, if_pos hcan]
      exact sendLoop_http2 race ws st h
    rw [sendLoop, if_neg hcap, if_neg hcan, h.next]
    simp only [HttpConnection.maybeClone]
    rw [if_neg (h.reserve_ne hcap)]
    by_cases hrace : race tx = true
    · rw [if_pos hrace]
      obtain ⟨w, hw, hinv⟩ := h.giveBack hcap
      rw [hw]
      exact sendLoop_http2 race ws _ hinv
    · rw [if_neg hrace]
      exact sendLoop_http2 race ws _ (h.sendOk hcap tx)

/-! ### What a send loop changes -/

lemma releaseH2StreamWithoutReturningToIdle_shape {w w' : World} {conn : HttpConnection}
    (h : releaseH2StreamWithoutReturningToIdle w conn = some w') : ∃ l q, w' = w.setH2 l q := by
  cases conn with
  | http1 _ =>
    simp only [releaseH2StreamWithoutReturningToIdle, Option.some.injEq] at h
    subst h
    exact ⟨w.loads, w.host.activeH2, rfl⟩
  | http2 h2 =>
    simp only [releaseH2StreamWithoutReturningToIdle] at h
    split at h
    · cases h
    · split_ifs at h <;> cases h <;> exact ⟨_, _, rfl⟩

lemma liveWaiters_cons (canceled : Nat → Bool) (tx : Nat) (ws : List Nat) :
    liveWaiters canceled (tx :: ws) = liveWaiters canceled ws + if canceled tx then 0 else 1 := by
  unfold liveWaiters
  cases h : canceled tx <;> simp [h]

lemma sendLoop_frame (race : Nat → Bool) : ∀ (ws : List Nat) (st : SendState) {ws' : List Nat} {st' : SendState},
    sendLoop race ws st = some (ws', st') →
      (∃ l q p d, st'.world = { st.world.setH2 l q with pooled := p, delivered := d }) ∧
        liveWaiters st.world.canceled ws' + (st.capacity - st'.capacity) ≤ liveWaiters st.world.canceled ws
  | [], st, _, _, h => by
    cases h
    exact ⟨⟨_, _, _, _, rfl⟩, by simp⟩
  | tx :: ws, st, ws', st', h => by
    rw [liveWaiters_cons]
    by_cases hcap : st.capacity = 0
    · rw [sendLoop, if_pos hcap] at h
      cases h
      exact ⟨⟨_, _, _, _, rfl⟩, by rw [liveWaiters_cons]; simp⟩
    by_cases hcan : st.world.canceled tx = true
    · rw [sendLoop, if_neg hcap, if_pos hcan] at h
      obtain ⟨hs, hl⟩ := sendLoop_frame race ws st h
      exact ⟨hs, by rw [if_pos hcan]; omega⟩
    rw [if_neg hcan]
    rw [sendLoop, if_neg hcap, if_neg hcan] at h
    cases hn : st.nextConn with
    | none =>
      simp only [hn, Option.some.injEq, Prod.mk.injEq] at h
      obtain ⟨rfl, rfl⟩ := h
      exact ⟨⟨_, _, _, _, rfl⟩, by simp⟩
    | some thisConn =>
      simp only [hn] at h
      by_cases hno : (incrementLoad st.world.loads st.world.host.activeH2 thisConn).2.2 = some .noCapacity
      · rw [if_pos hno] at h
        cases h
        exact ⟨⟨_, _, _, _, rfl⟩, by simp⟩
      rw [if_neg hno] at h
      by_cases hrace : race tx = true
      · rw [if_pos hrace] at h
        cases hw : releaseH2StreamWithoutReturningToIdle
            (st.world.setH2 (incrementLoad st.world.loads st.world.host.activeH2 thisConn).1
              (incrementLoad st.world.loads st.world.host.activeH2 thisConn).2.1) thisConn with
        | none =>
          rw [hw] at h
          cases h
        | some w =>
          rw [hw] at h
          obtain ⟨l₁, q₁, rfl⟩ := releaseH2StreamWithoutReturningToIdle_shape hw
          obtain ⟨⟨l, q, p, d, he⟩, hl⟩ := sendLoop_frame race ws _ h
          exact ⟨⟨l, q, p, d, he⟩, by simp only [World.setH2_canceled'] at hl; omega⟩
      · rw [if_neg hrace] at h
        cases thisConn with
        | http1 x =>
          simp only [HttpConnection.maybeClone] at h
          obtain ⟨⟨l, q, p, d, he⟩, hl⟩ := sendLoop_frame race ws _ h
          refine ⟨⟨l, q, p, d, he⟩, ?_⟩
          simp only [World.sendPooled_canceled', World.setH2_canceled'] at hl
          omega
        | http2 x =>
          simp only [HttpConnection.maybeClone] at h
          obtain ⟨⟨l, q, p, d, he⟩, hl⟩ := sendLoop_frame race ws _ h
          refine ⟨⟨l, q, p, d, he⟩, ?_⟩
          simp only [World.sendPooled_canceled', World.setH2_canceled'] at hl
          omega

/-! ### `send_connection` -/

/-- What handing out connections leaves alone: the tokens, the counters of connections on their
way, the capacity cache and the waiters' cancellations. Waiters are only taken off. -/
structure Quiet (w w' : World) : Prop where
  tokens : w'.tokens = w.tokens
  connecting : w'.host.connecting = w.host.connecting
  expected : w'.host.expectedConnectingCapacity = w.host.expectedConnectingCapacity
  cache : w'.host.perConnectionCapacityCache = w.host.perConnectionCapacityCache
  canceled : w'.canceled = w.canceled
  live : liveWaiters w.canceled w'.host.waiters ≤ liveWaiters w.canceled w.host.waiters

lemma SendInv.bookkeeping_of_sent {c : Nat} {st : SendState} (h : SendInv c st) (hs : st.sent ≠ 0)
    (ws : List Nat) : Bookkeeping (st.world.setWaiters ws) where
  conn x := by
    by_cases hx : x = c
    · subst hx
      have := h.room
      exact ⟨h.maxPos, by simp [h.active]; omega, by simp [h.active, h.reserved],
        fun _ => by simp [h.active, h.reserved], fun hi => absurd hi h.notIdle⟩
    · exact (h.others x hx).mono rfl rfl id id id
  nodup := h.nodup
  idleNodup := h.idleNodup
  frontLoaded := by
    rcases h.order with ho | ⟨-, hz, -⟩
    · exact ho
    · exact absurd hz hs

lemma SendInv.bookkeeping_idle {c : Nat} {st : SendState} (h : SendInv c st) (hs : st.sent = 0)
    (ws : List Nat) (n t : Nat) :
    Bookkeeping ((st.world.setH2 st.world.loads (st.world.host.activeH2.erase c)).setWaiters ws |>.setIdle
      (pushIdleWithCap n st.world.host.idle (.http2 c) t)) where
  conn x := by
    by_cases hx : x = c
    · subst hx
      refine ⟨h.maxPos, by simp [h.active, hs], by simp [h.active, h.reserved], fun _ => ?_, fun _ => ?_⟩
      · simp [h.active, h.reserved]
      · exact ⟨by simp [h.active, hs], by simp [List.Nodup.not_mem_erase h.nodup]⟩
    · refine (h.others x hx).mono rfl rfl id ?_ ?_
      · intro hmem
        simp only [World.setIdle_host_activeH2, World.setWaiters_host_activeH2, World.setH2_host_activeH2] at hmem
        exact (mem_erase_iff_of_nodup h.nodup).1 hmem |>.1
      · intro hmem
        simp only [World.setIdle_host_idle] at hmem
        rcases mem_idleH2_pushIdleWithCap hmem with hmem | hmem
        · exact hmem
        · exact absurd (HttpConnection.http2.inj hmem).symm hx
  nodup := h.nodup.erase c
  idleNodup := nodup_idleH2_pushIdleWithCap h.idleNodup fun _ hv => (HttpConnection.http2.inj hv) ▸ h.notIdle
  frontLoaded := h.frontLoaded_erase

/-- Handing out an HTTP/2 connection `c` that had no stream in use keeps the bookkeeping, and
serves live waiters up to its capacity or until none is left. -/
theorem sendConnection_http2 (settings : PoolSettings) (race : Nat → Bool) {w : World} {c capacity : Nat}
    (h : SendInv c ⟨w, capacity, some (.http2 c), 0⟩) :
    ∃ w', sendConnection settings race capacity w (.http2 c) = some w' ∧ Bookkeeping w' ∧ Quiet w w' ∧
      (liveWaiters w.canceled w'.host.waiters + capacity ≤ liveWaiters w.canceled w.host.waiters ∨
        liveWaiters w.canceled w'.host.waiters = 0) := by
  obtain ⟨ws', st', hloop, hinv, hend⟩ := sendLoop_http2 race w.host.waiters _ h
  obtain ⟨⟨l, q, p, d, hshape⟩, hlive⟩ := sendLoop_frame race _ _ hloop
  dsimp only at hlive
  have hlive' : liveWaiters w.canceled ws' + capacity ≤ liveWaiters w.canceled w.host.waiters ∨
      liveWaiters w.canceled ws' = 0 := by
    rcases hend with rfl | hz
    · exact Or.inr rfl
    · rw [hz] at hlive
      exact Or.inl (by omega)
  have hquiet : ∀ w' : World, w'.tokens = st'.world.tokens → w'.host.connecting = st'.world.host.connecting →
      w'.host.expectedConnectingCapacity = st'.world.host.expectedConnectingCapacity →
      w'.host.perConnectionCapacityCache = st'.world.host.perConnectionCapacityCache →
      w'.canceled = st'.world.canceled → w'.host.waiters = ws' → Quiet w w' := by
    intro w' h₁ h₂ h₃ h₄ h₅ h₆
    rw [hshape] at h₁ h₂ h₃ h₄ h₅
    exact ⟨h₁, h₂, h₃, h₄, h₅, by rw [h₆]; omega⟩
  simp only [sendConnection, hloop]
  by_cases hs : st'.sent = 0
  · rw [if_pos hs, hinv.next]
    simp only [World.setWaiters_loads', World.setWaiters_host_activeH2, remove, removeByLoad_snd]
    refine ⟨_, rfl, ?_, hquiet _ rfl rfl rfl rfl rfl rfl, ?_⟩
    · convert hinv.bookkeeping_idle hs ws' _ _ using 2 <;> rfl
    · simpa using hlive'
  · rw [if_neg hs]
    exact ⟨_, rfl, hinv.bookkeeping_of_sent hs ws', hquiet _ rfl rfl rfl rfl rfl rfl, by simpa using hlive'⟩

/-! ### Handing out any connection -/

lemma Bookkeeping.mono {w w' : World} (h : Bookkeeping w) (hl : w'.loads = w.loads)
    (hres : w'.reservations = w.reservations) (hr : ∀ c, w'.ready c = true → w.ready c = true)
    (ha : w'.host.activeH2 = w.host.activeH2)
    (hi : List.Sublist (idleH2 w'.host.idle) (idleH2 w.host.idle)) : Bookkeeping w' where
  conn c := (h.conn c).mono (by rw [hl]) (by rw [hres]) (hr c) (by rw [ha]; exact id) fun hc => hi.subset hc
  nodup := ha ▸ h.nodup
  idleNodup := h.idleNodup.sublist hi
  frontLoaded := by
    rw [ha, hl]
    exact h.frontLoaded

lemma Bookkeeping.sendInv {w : World} {c capacity : Nat} (h : Bookkeeping w)
    (hact : (w.loads c).activeStreams = 0) (hidle : c ∉ idleH2 w.host.idle)
    (hcap : capacity ≤ (w.loads c).maxStreams) : SendInv c ⟨w, capacity, some (.http2 c), 0⟩ where
  next := rfl
  others x _ := h.conn x
  active := hact
  reserved := by
    have := (h.conn c).reservedLe
    dsimp only
    omega
  room := by
    dsimp only
    omega
  maxPos := (h.conn c).maxPos
  notIdle := hidle
  nodup := h.nodup
  idleNodup := h.idleNodup
  order := Or.inl h.frontLoaded
  tracked hs := absurd hs (lt_irrefl 0)

lemma idleH2_pushIdleWithCap_http1 (n : Nat) (idle : List Idle) (h t : Nat) :
    List.Sublist (idleH2 (pushIdleWithCap n idle (.http1 h) t)) (idleH2 idle) := by
  have hs := idleH2_sublist (pushIdleWithCap_sublist n idle (.http1 h) t)
  rwa [idleH2_append, idleH2_http1, List.append_nil] at hs

lemma sendLoop_of_capacity_zero (race : Nat → Bool) (ws : List Nat) {st : SendState} (h : st.capacity = 0) :
    sendLoop race ws st = some (ws, st) := by
  cases ws with
  | nil => rfl
  | cons tx ws => rw [sendLoop, if_pos h]

lemma sendLoop_http1 (race : Nat → Bool) (w : World) (h : Nat) : ∀ ws : List Nat,
    sendLoop race ws ⟨w, 1, some (.http1 h), 0⟩ = some ([], ⟨w, 1, some (.http1 h), 0⟩) ∨
      ∃ tx ws', sendLoop race ws ⟨w, 1, some (.http1 h), 0⟩ = some (ws', ⟨w.sendPooled tx (.http1 h), 0, none, 1⟩)
  | [] => Or.inl rfl
  | tx :: ws => by
    rw [sendLoop]
    dsimp only
    rw [if_neg Nat.one_ne_zero]
    by_cases hcan : w.canceled tx = true
    · rw [if_pos hcan]
      exact sendLoop_http1 race w h ws
    rw [if_neg hcan]
    by_cases hrace : race tx = true
    · -- the handle comes back and the next waiter is tried
      simp only [incrementLoad, HttpConnection.maybeClone, World.setH2_self, reduceCtorEq, if_false, hrace,
        if_true, releaseH2StreamWithoutReturningToIdle]
      exact sendLoop_http1 race w h ws
    · right
      refine ⟨tx, ws, ?_⟩
      simp only [incrementLoad, HttpConnection.maybeClone, World.setH2_self, reduceCtorEq, if_false, hrace]
      exact sendLoop_of_capacity_zero race ws rfl

theorem sendConnection_http1 (settings : PoolSettings) (race : Nat → Bool) {w : World} (hb : Bookkeeping w)
    (h : Nat) :
    ∃ w', sendConnection settings race 1 w (.http1 h) = some w' ∧ Bookkeeping w' ∧ Quiet w w' ∧
      (liveWaiters w.canceled w'.host.waiters + 1 ≤ liveWaiters w.canceled w.host.waiters ∨
        liveWaiters w.canceled w'.host.waiters = 0) := by
  rcases sendLoop_http1 race w h w.host.waiters with hloop | ⟨tx, ws', hloop⟩
  · -- nobody took it: it goes idle
    simp only [sendConnection, hloop, if_true]
    refine ⟨_, rfl, ?_, ⟨rfl, rfl, rfl, rfl, rfl, Nat.zero_le _⟩, Or.inr rfl⟩
    exact hb.mono rfl rfl (fun _ => id) rfl (idleH2_pushIdleWithCap_http1 _ _ _ _)
  · have hlive := (sendLoop_frame race _ _ hloop).2
    dsimp only at hlive
    simp only [sendConnection, hloop, Nat.one_ne_zero, if_false]
    refine ⟨_, rfl, ?_, ⟨rfl, rfl, rfl, rfl, rfl, ?_⟩, Or.inl hlive⟩
    · refine hb.mono rfl (funext fun c => ?_) (fun _ => id) rfl (List.Sublist.refl _)
      exact reservations_append_pooled_ne w (by simp)
    · simp only [World.setWaiters_host_waiters]
      omega

/-! ### Giving a stream slot back -/

namespace Quiet

lemma trans {w₁ w₂ w₃ : World} (h₁ : Quiet w₁ w₂) (h₂ : Quiet w₂ w₃) : Quiet w₁ w₃ where
  tokens := h₂.tokens.trans h₁.tokens
  connecting := h₂.connecting.trans h₁.connecting
  expected := h₂.expected.trans h₁.expected
  cache := h₂.cache.trans h₁.cache
  canceled := h₂.canceled.trans h₁.canceled
  live := by
    have h := h₂.live
    rw [h₁.canceled] at h
    exact Nat.le_trans h h₁.live

lemma setH2 (w : World) (l : Nat → H2Load) (q : List Nat) : Quiet w (w.setH2 l q) :=
  ⟨rfl, rfl, rfl, rfl, rfl, le_rfl⟩

lemma pooled (w : World) (p : List HttpConnection) : Quiet w { w with pooled := p } :=
  ⟨rfl, rfl, rfl, rfl, rfl, le_rfl⟩

lemma guards (w : World) (g : List Nat) : Quiet w { w with guards := g } :=
  ⟨rfl, rfl, rfl, rfl, rfl, le_rfl⟩

end Quiet

structure Dropped (w : World) (c : Nat) : Prop where
  others : ∀ x, x ≠ c → ConnInv w x
  maxPos : 0 < (w.loads c).maxStreams
  activeLe : (w.loads c).activeStreams ≤ (w.loads c).maxStreams
  reservedLt : w.reservations c < (w.loads c).activeStreams
  exact : w.ready c = true ∨ c ∈ w.host.activeH2 → (w.loads c).activeStreams = w.reservations c + 1
  notIdle : c ∉ idleH2 w.host.idle
  nodup : w.host.activeH2.Nodup
  idleNodup : (idleH2 w.host.idle).Nodup
  frontLoaded : FrontLoaded (Avail w.loads) w.host.activeH2

lemma Bookkeeping.dropped {w w' : World} {c : Nat} (h : Bookkeeping w) (hl : w'.loads = w.loads)
    (hr : w'.ready = w.ready) (hh : w'.host = w.host) (hc : w'.reservations c + 1 = w.reservations c)
    (hx : ∀ x, x ≠ c → w'.reservations x = w.reservations x) : Dropped w' c where
  others x hxc := (h.conn x).mono (by rw [hl]) (hx x hxc) (by rw [hr]; exact id) (by rw [hh]; exact id)
    (by rw [hh]; exact id)
  maxPos := hl ▸ (h.conn c).maxPos
  activeLe := hl ▸ (h.conn c).activeLe
  reservedLt := by
    have := (h.conn c).reservedLe
    rw [hl]
    omega
  exact hrc := by
    rw [hl, hc]
    exact (h.conn c).exact (by rwa [hr, hh] at hrc)
  notIdle hi := by
    have := (h.conn c).reservedLe
    have h0 := ((h.conn c).idle (by rwa [hh] at hi)).1
    omega
  nodup := by
    rw [hh]
    exact h.nodup
  idleNodup := by
    rw [hh]
    exact h.idleNodup
  frontLoaded := by
    rw [hh, hl]
    exact h.frontLoaded

lemma Bookkeeping.dropped_pooled {w : World} {c : Nat} (h : Bookkeeping w) (hm : .http2 c ∈ w.pooled) :
    Dropped { w with pooled := w.pooled.erase (.http2 c) } c := by
  have hpos := List.count_pos_iff.2 hm
  refine h.dropped rfl rfl rfl ?_ fun x hx => ?_
  · rw [reservations_erase_pooled, if_pos ⟨rfl, hm⟩]
    unfold World.reservations
    omega
  · rw [reservations_erase_pooled, if_neg fun hv => hx (HttpConnection.http2.inj hv.1).symm, Nat.sub_zero]

lemma Bookkeeping.dropped_guard {w : World} {c : Nat} (h : Bookkeeping w) (hm : c ∈ w.guards) :
    Dropped { w with guards := w.guards.erase c } c := by
  have hpos := List.count_pos_iff.2 hm
  refine h.dropped rfl rfl rfl ?_ fun x hx => ?_
  · rw [reservations_erase_guards, if_pos ⟨rfl, hm⟩]
    unfold World.reservations
    omega
  · rw [reservations_erase_guards, if_neg fun hv => hx hv.1.symm, Nat.sub_zero]

namespace Dropped

variable {w : World} {c : Nat}

lemma active_pos (h : Dropped w c) : 0 < (w.loads c).activeStreams :=
  Nat.lt_of_le_of_lt (Nat.zero_le _) h.reservedLt

lemma bookkeeping_release (h : Dropped w c) {Q : List Nat} (hQ : Q.Nodup)
    (hsub : ∀ x ∈ Q, x ≠ c → x ∈ w.host.activeH2) (hc : c ∈ Q → w.ready c = true ∨ c ∈ w.host.activeH2)
    (ho : FrontLoaded (Avail (Function.update w.loads c
      { w.loads c with activeStreams := (w.loads c).activeStreams - 1 })) Q) :
    Bookkeeping (w.setH2 (Function.update w.loads c
      { w.loads c with activeStreams := (w.loads c).activeStreams - 1 }) Q) where
  conn x := by
    by_cases hx : x = c
    · subst hx
      have := h.reservedLt
      have := h.activeLe
      refine ⟨by simpa using h.maxPos, by simp; omega, by simp; omega, fun hrc => ?_,
        fun hi => absurd hi h.notIdle⟩
      have := h.exact (hrc.elim Or.inl fun hq => hc hq)
      simp
      omega
    · exact (h.others x hx).mono (by simp [Function.update_of_ne hx]) rfl id (fun hq => hsub x hq hx) id
  nodup := hQ
  idleNodup := h.idleNodup
  frontLoaded := ho

lemma avail_release (h : Dropped w c) :
    Avail (Function.update w.loads c { w.loads c with activeStreams := (w.loads c).activeStreams - 1 }) c := by
  have := h.activeLe
  have := h.active_pos
  simp only [Avail, Function.update_self]
  omega

lemma bookkeeping_untracked (h : Dropped w c) :
    Bookkeeping (w.setH2 (Function.update w.loads c
      { w.loads c with activeStreams := (w.loads c).activeStreams - 1 }) (w.host.activeH2.erase c)) :=
  h.bookkeeping_release (h.nodup.erase c) (fun _ hx _ => List.mem_of_mem_erase hx)
    (fun hq => absurd hq (List.Nodup.not_mem_erase h.nodup))
    (frontLoaded_erase_update (h.frontLoaded.erase c) h.nodup _)

lemma sendInv_untracked (h : Dropped w c) (hz : (w.loads c).activeStreams - 1 = 0) :
    SendInv c ⟨w.setH2 (Function.update w.loads c
      { w.loads c with activeStreams := (w.loads c).activeStreams - 1 }) (w.host.activeH2.erase c), 1,
      some (.http2 c), 0⟩ := by
  have := h.maxPos
  refine h.bookkeeping_untracked.sendInv ?_ (by simpa using h.notIdle) ?_
  · simp [hz]
  · simp
    omega

lemma bookkeeping_front (h : Dropped w c) (hc : w.ready c = true ∨ c ∈ w.host.activeH2) :
    Bookkeeping (w.setH2 (Function.update w.loads c
      { w.loads c with activeStreams := (w.loads c).activeStreams - 1 }) (c :: w.host.activeH2.erase c)) :=
  h.bookkeeping_release (List.nodup_cons.2 ⟨List.Nodup.not_mem_erase h.nodup, h.nodup.erase c⟩)
    (fun _ hx hxc => List.mem_of_mem_erase ((List.mem_cons.1 hx).resolve_left hxc)) (fun _ => hc)
    ((frontLoaded_erase_update (h.frontLoaded.erase c) h.nodup _).cons h.avail_release)

lemma bookkeeping_stay (h : Dropped w c)
    (hm : c ∈ w.host.activeH2 → (w.loads c).activeStreams ≠ (w.loads c).maxStreams) :
    Bookkeeping (w.setH2 (Function.update w.loads c
      { w.loads c with activeStreams := (w.loads c).activeStreams - 1 }) w.host.activeH2) := by
  refine h.bookkeeping_release h.nodup (fun _ hx _ => hx) Or.inr
    (frontLoaded_update h.frontLoaded _ fun hq => iff_of_true h.avail_release ?_)
  have := h.activeLe
  have := hm hq
  unfold Avail
  omega

lemma bookkeeping_dead (h : Dropped w c) (hr : w.ready c = false) :
    Bookkeeping (w.setH2 w.loads (w.host.activeH2.erase c)) where
  conn x := by
    by_cases hx : x = c
    · subst hx
      have := h.reservedLt
      refine ⟨h.maxPos, h.activeLe, by simp; omega, fun hrc => ?_, fun hi => absurd hi h.notIdle⟩
      rcases hrc with hrc | hrc
      · simp [hr] at hrc
      · exact absurd hrc (List.Nodup.not_mem_erase h.nodup)
    · exact (h.others x hx).mono rfl rfl id (fun hq => List.mem_of_mem_erase hq) id
  nodup := h.nodup.erase c
  idleNodup := h.idleNodup
  frontLoaded := h.frontLoaded.erase c

theorem returnConnection_ok (settings : PoolSettings) (race : Nat → Bool) (h : Dropped w c)
    (hr : w.ready c = true) :
    ∃ w', returnConnection settings race w (.http2 c) = some w' ∧ Bookkeeping w' ∧ Quiet w w' := by
  have hpos := h.active_pos
  simp only [returnConnection, H2Load.releaseStreamSlot_of_pos hpos, World.setH2_setH2, World.setH2_loads',
    World.setH2_host_activeH2, remove, removeByLoad_snd, markActive_eq, decide_eq_true_eq, returnIdle]
  by_cases hz : (w.loads c).activeStreams - 1 = 0
  · -- no stream left: `c` leaves the queue and is handed out again
    rw [if_pos hz]
    obtain ⟨w', hw', hb', hq, -⟩ := sendConnection_http2 settings race (h.sendInv_untracked hz)
    exact ⟨w', hw', hb', (Quiet.setH2 w _ _).trans hq⟩
  · rw [if_neg hz]
    by_cases hm : (w.loads c).activeStreams = (w.loads c).maxStreams
    · rw [if_pos hm]
      exact ⟨_, rfl, h.bookkeeping_front (Or.inl hr), Quiet.setH2 w _ _⟩
    · rw [if_neg hm]
      exact ⟨_, rfl, h.bookkeeping_stay fun _ => hm, Quiet.setH2 w _ _⟩

theorem returnH2Stream_ok (settings : PoolSettings) (race : Nat → Bool) (h : Dropped w c) :
    ∃ w', returnH2Stream settings race w c = some w' ∧ Bookkeeping w' ∧ Quiet w w' := by
  have hpos := h.active_pos
  simp only [returnH2Stream, H2Load.releaseStreamSlot_of_pos hpos, World.setH2_setH2, World.setH2_loads',
    World.setH2_host_activeH2, markActiveByLoad_eq, decide_eq_true_eq, returnIdle]
  by_cases hz : (w.loads c).activeStreams - 1 = 0
  · rw [if_pos hz]
    by_cases hq : c ∈ w.host.activeH2
    · -- tracked: it leaves the queue, and a live one is handed out again
      simp only [removeByLoad, if_pos hq, World.setH2_ready']
      by_cases hr : w.ready c = true
      · simp only [hr, ↓reduceIte]
        obtain ⟨w', hw', hb', hq', -⟩ := sendConnection_http2 settings race (h.sendInv_untracked hz)
        exact ⟨w', hw', hb', (Quiet.setH2 w _ _).trans hq'⟩
      · simp only [hr]
        exact ⟨_, rfl, h.bookkeeping_untracked, Quiet.setH2 w _ _⟩
    · simp only [removeByLoad, if_neg hq]
      refine ⟨_, rfl, ?_, Quiet.setH2 w _ _⟩
      exact h.bookkeeping_stay fun hq' => absurd hq' hq
  · rw [if_neg hz]
    by_cases hm : (w.loads c).activeStreams = (w.loads c).maxStreams
    · rw [if_pos hm]
      by_cases hq : c ∈ w.host.activeH2
      · rw [if_pos hq]
        exact ⟨_, rfl, h.bookkeeping_front (Or.inr hq), Quiet.setH2 w _ _⟩
      · rw [if_neg hq]
        exact ⟨_, rfl, h.bookkeeping_stay fun hq' => absurd hq' hq, Quiet.setH2 w _ _⟩
    · rw [if_neg hm]
      exact ⟨_, rfl, h.bookkeeping_stay fun _ => hm, Quiet.setH2 w _ _⟩

end Dropped

/-! ### Dropping what callers hold -/

theorem dropPooled_ok (settings : PoolSettings) (race : Nat → Bool) {w : World} (h : Bookkeeping w)
    {v : HttpConnection} (hv : v ∈ w.pooled) :
    ∃ w', dropPooled settings race w v = some w' ∧ Bookkeeping w' ∧ Quiet w w' := by
  unfold dropPooled
  cases v with
  | http1 x =>
    -- an HTTP/1 handle holds no stream slot
    have hb : Bookkeeping { w with pooled := w.pooled.erase (.http1 x) } := by
      refine h.mono rfl (funext fun c => ?_) (fun _ => id) rfl (List.Sublist.refl _)
      rw [reservations_erase_pooled, if_neg (by simp), Nat.sub_zero]
    by_cases hr : w.ready x = true
    · simp only [HttpConnection.isOpen, hr, if_true, returnConnection, returnIdle]
      obtain ⟨w', hw', hb', hq, -⟩ := sendConnection_http1 settings race hb x
      exact ⟨w', hw', hb', (Quiet.pooled w _).trans hq⟩
    · simp only [HttpConnection.isOpen, hr, Bool.false_eq_true, if_false, returnDeadConnection]
      exact ⟨_, rfl, hb, Quiet.pooled w _⟩
  | http2 c =>
    have hd := h.dropped_pooled hv
    by_cases hr : w.ready c = true
    · simp only [HttpConnection.isOpen, hr, if_true]
      obtain ⟨w', hw', hb', hq⟩ := hd.returnConnection_ok settings race hr
      exact ⟨w', hw', hb', (Quiet.pooled w _).trans hq⟩
    · rw [Bool.not_eq_true] at hr
      simp only [HttpConnection.isOpen, hr, Bool.false_eq_true, if_false, returnDeadConnection, remove,
        removeByLoad_snd]
      exact ⟨_, rfl, hd.bookkeeping_dead hr, (Quiet.pooled w _).trans (Quiet.setH2 _ _ _)⟩

theorem dropGuard_ok (settings : PoolSettings) (race : Nat → Bool) {w : World} (h : Bookkeeping w)
    {load : Nat} (hl : load ∈ w.guards) :
    ∃ w', dropGuard settings race w load = some w' ∧ Bookkeeping w' ∧ Quiet w w' := by
  obtain ⟨w', hw', hb', hq⟩ := (h.dropped_guard hl).returnH2Stream_ok settings race
  exact ⟨w', hw', hb', (Quiet.guards w _).trans hq⟩

lemma reservations_intoH2Parts (w : World) {load : Nat} (hm : .http2 load ∈ w.pooled) :
    (intoH2Parts w load).reservations = w.reservations := by
  funext c
  unfold intoH2Parts World.reservations
  by_cases hc : load = c
  · subst hc
    have := List.count_pos_iff.2 hm
    simp only [List.count_erase_self, List.count_append, List.count_singleton_self]
    omega
  · simp [List.count_append, hc, Ne.symm hc]

lemma intoH2Parts_bookkeeping {w : World} (h : Bookkeeping w) {load : Nat} (hm : .http2 load ∈ w.pooled) :
    Bookkeeping (intoH2Parts w load) :=
  h.mono rfl (reservations_intoH2Parts w hm) (fun _ => id) rfl (List.Sublist.refl _)

/-! ### Checkouts -/

section Checkout

variable {w : World}

lemma Bookkeeping.take {c : Nat} (h : Bookkeeping w) (ha : Avail w.loads c)
    (hr : w.reservations c = (w.loads c).activeStreams) (hi : c ∉ idleH2 w.host.idle) {Q : List Nat}
    (hQ : Q.Nodup) (hsub : ∀ x ∈ Q, x ≠ c → x ∈ w.host.activeH2)
    (ho : FrontLoaded (Avail (Function.update w.loads c
      { w.loads c with activeStreams := (w.loads c).activeStreams + 1 })) Q) :
    let L := Function.update w.loads c { w.loads c with activeStreams := (w.loads c).activeStreams + 1 }
    Bookkeeping { w.setH2 L Q with pooled := (w.setH2 L Q).pooled ++ [.http2 c] } := by
  intro L
  have hres := reservations_append_pooled (w.setH2 L Q)
  unfold Avail at ha
  refine ⟨fun y => ?_, hQ, h.idleNodup, ho⟩
  by_cases hy : y = c
  · subst hy
    have hy := hres (.http2 y) y
    rw [if_pos rfl, reservations_setH2] at hy
    refine ⟨by simpa [L] using (h.conn y).maxPos, by simp [L]; omega, ?_, fun _ => ?_, fun hi' => absurd hi' hi⟩
    · rw [hy]
      simp [L]
      omega
    · rw [hy]
      simp [L]
      omega
  · refine (h.conn y).mono (by simp [L, Function.update_of_ne hy]) ?_ id (fun hm => hsub y hm hy) id
    rw [hres, if_neg fun hv => hy (HttpConnection.http2.inj hv).symm, Nat.add_zero, reservations_setH2]

lemma reserve_some_bookkeeping (h : Bookkeeping w) {x : Nat}
    (hx : (reserve w.ready w.loads w.host.activeH2).2.2 = some x) :
    let r := reserve w.ready w.loads w.host.activeH2
    Bookkeeping { w.setH2 r.1 r.2.1 with pooled := (w.setH2 r.1 r.2.1).pooled ++ [.http2 x] } := by
  intro r
  obtain ⟨hq, -, hrx, hax, hl⟩ := reserve_some hx
  have hl' : r.1 = _ := hl
  have hf : FrontLoaded (Avail r.1) r.2.1 := reserve_frontLoaded h.nodup h.frontLoaded
  rw [hl'] at hf ⊢
  exact h.take hax ((h.conn x).exact (Or.inl hrx)).symm (fun hi => ((h.conn x).idle hi).2 hq)
    (reserve_nodup h.nodup) (fun _ hy _ => reserve_subset hy) hf

lemma reserve_none_bookkeeping (h : Bookkeeping w) (hx : (reserve w.ready w.loads w.host.activeH2).2.2 = none) :
    let W := w.setH2 (reserve w.ready w.loads w.host.activeH2).1 (reserve w.ready w.loads w.host.activeH2).2.1
    Bookkeeping W ∧ ∀ y ∈ W.host.activeH2, ¬ Avail W.loads y := by
  intro W
  obtain ⟨hl, hfree⟩ := reserve_none h.frontLoaded hx
  have hl' : W.loads = w.loads := hl
  have hf : FrontLoaded (Avail W.loads) W.host.activeH2 := reserve_frontLoaded h.nodup h.frontLoaded
  refine ⟨⟨fun y => (h.conn y).mono (by rw [hl']) rfl id (fun hm => reserve_subset hm) id,
    reserve_nodup h.nodup, h.idleNodup, hf⟩, ?_⟩
  rw [hl']
  exact hfree

lemma revive_bookkeeping (h : Bookkeeping w) (hfree : ∀ y ∈ w.host.activeH2, ¬ Avail w.loads y)
    {rest : List Idle} {got : Idle} (hs : List.Sublist (rest ++ [got]) w.host.idle) :
    let m := maybeInsertNew (w.setIdle rest).loads (w.setIdle rest).host.activeH2 got.value true
    Bookkeeping { (w.setIdle rest).setH2 m.1 m.2.1 with pooled := (w.setIdle rest).pooled ++ [m.2.2] } := by
  intro m
  have hsi : List.Sublist (idleH2 rest) (idleH2 w.host.idle) :=
    idleH2_sublist ((List.sublist_append_left rest [got]).trans hs)
  have hb : Bookkeeping (w.setIdle rest) := h.mono rfl rfl (fun _ => id) rfl hsi
  obtain ⟨t, v⟩ := got
  cases v with
  | http1 y =>
    -- an HTTP/1 connection is not tracked and its handle holds no stream slot
    exact hb.mono rfl (funext fun c => reservations_append_pooled_ne _ (by simp [m, maybeInsertNew]))
      (fun _ => id) rfl (List.Sublist.refl _)
  | http2 c =>
    have hs' : List.Sublist (idleH2 rest ++ [c]) (idleH2 w.host.idle) := by
      simpa using idleH2_sublist hs
    have hci : c ∈ idleH2 w.host.idle := hs'.subset (List.mem_append_right _ (List.mem_singleton_self c))
    have hcr : c ∉ idleH2 rest := by
      have hnd := h.idleNodup.sublist hs'
      rw [List.nodup_append] at hnd
      exact fun hc => hnd.2.2 c hc c (List.mem_singleton_self c) rfl
    obtain ⟨h0, hcq⟩ := (h.conn c).idle hci
    have hmax := (h.conn c).maxPos
    have hr0 : w.reservations c = 0 := by
      have := (h.conn c).reservedLe
      omega
    have ha : Avail w.loads c := by
      unfold Avail
      omega
    have hm : m = (Function.update w.loads c { w.loads c with activeStreams := (w.loads c).activeStreams + 1 },
        c :: w.host.activeH2, .http2 c) := by
      simp only [m, maybeInsertNew, if_true, World.setIdle_loads', World.setIdle_host_activeH2,
        H2Load.tryReserveStreamSlot_of_lt ha]
    rw [hm]
    have hothers : ∀ y ∈ w.host.activeH2, y ≠ c := fun y hy hyc => hcq (hyc ▸ hy)
    refine hb.take ha (hr0.trans h0.symm) hcr (List.nodup_cons.2 ⟨hcq, h.nodup⟩)
      (fun y hy hyc => (List.mem_cons.1 hy).resolve_left hyc) ?_
    refine FrontLoaded.cons_of_forall_not ?_ fun y hy => ?_
    · exact h.frontLoaded.congr fun y hy => (avail_update_ne _ (hothers y hy)).symm
    · rw [avail_update_ne _ (hothers y hy)]
      exact hfree y hy

/-- A checkout takes a free stream off the front, else revives an idle connection, else waits:
each way keeps the bookkeeping. -/
theorem checkoutOrRegisterWaker_bookkeeping (settings : PoolSettings) (h : Bookkeeping w) (tx : Nat) :
    Bookkeeping (checkoutOrRegisterWaker settings w tx).1 := by
  unfold checkoutOrRegisterWaker
  dsimp only
  cases hx : (reserve w.ready w.loads w.host.activeH2).2.2 with
  | some x => exact reserve_some_bookkeeping h hx
  | none =>
    obtain ⟨hb, hfree⟩ := reserve_none_bookkeeping h hx
    dsimp only
    generalize w.setH2 (reserve w.ready w.loads w.host.activeH2).1 (reserve w.ready w.loads w.host.activeH2).2.1 = W
      at hb hfree ⊢
    cases hp : (IdlePopper.pop W.ready settings.timeout W.now W.host.idle).2 with
    | some got => exact revive_bookkeeping hb hfree (IdlePopper.pop_some hp).1
    | none =>
      -- the caller waits: only the waiters and the counters change
      dsimp only
      rw [IdlePopper.pop_none hp]
      split
      · exact hb.mono rfl rfl (fun _ => id) rfl (List.nil_sublist _)
      · exact hb.mono rfl rfl (fun _ => id) rfl (List.nil_sublist _)

end Checkout

end AgentGateway.Pool
