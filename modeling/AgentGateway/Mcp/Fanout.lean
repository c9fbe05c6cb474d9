import Mathlib

/-! The fan-out stream of `mcp/mergestream.rs`; an upstream is the answers to its polls, so
every interleaving of readiness is one input. -/

namespace AgentGateway.Mcp.Fanout

inductive FailureMode where
  | failClosed
  | failOpen
  deriving DecidableEq

/-- `ServerJsonRpcMessage`: a request or notification of the upstream, a response with its
result, or a JSON-RPC error. -/
inductive ServerJsonRpcMessage (R I N E : Type) where
  | request (q : N)
  | response (result : R) (id : I)
  | notification (n : N)
  | error (e : E)

inductive Poll (α : Type) where
  | ready (a : α)
  | pending

variable {R I N E ε : Type}

abbrev Item (R I N E ε : Type) := Except ε (ServerJsonRpcMessage R I N E)

abbrev Messages (R I N E ε : Type) := List (Poll (Option (Item R I N E ε)))

def pollMessages : Messages R I N E ε → Poll (Option (Item R I N E ε)) × Messages R I N E ε
  | [] => (.pending, [])
  | p :: ps => (p, ps)

/-- One upstream of the merge: `streams[i]` and `terminal_messages[i]`, which `new_internal`
builds with one entry per upstream and `poll_next` always indexes together. -/
structure Slot (R I N E ε : Type) where
  stream : Option (String × Messages R I N E ε)
  terminalMessage : Option (String × R)

structure MergeStream (R I N E ε : Type) where
  slots : List (Slot R I N E ε)
  complete : Bool
  reqId : I
  merge : Option (List (String × R) → Except ε R)
  failureMode : FailureMode

def MergeStream.newInternal (streams : List (String × Messages R I N E ε)) (reqId : I)
    (merge : Option (List (String × R) → Except ε R)) (failureMode : FailureMode) : MergeStream R I N E ε where
  slots := streams.map fun s => ⟨some s, none⟩
  complete := false
  reqId := reqId
  merge := merge
  failureMode := failureMode

/-! ### One call of `poll_next` -/

/-- How the loop body ends for one upstream: on to the next one (having seen `Pending` or not),
or returning an item (and completing the merge or not). -/
inductive SlotResult (α : Type) where
  | next (pending : Bool)
  | yield (item : α) (complete : Bool)

def SlotResult.items {α : Type} : SlotResult α → List α
  | .next _ => []
  | .yield x _ => [x]

def SlotResult.completes {α : Type} : SlotResult α → Bool
  | .next _ => false
  | .yield _ c => c

section Poll

variable (mode : FailureMode) (ended : ε)

/-- A failing upstream: skipped and dropped with `FailOpen`; with `FailClosed` its failure is
returned and the merge completes. -/
def failWith (u : Slot R I N E ε) (k : String) (msgs : Messages R I N E ε) (item : Item R I N E ε) :
    Slot R I N E ε × SlotResult (Item R I N E ε) :=
  match mode with
  | .failOpen => ({ u with stream := none }, .next false)
  | .failClosed => ({ u with stream := some (k, msgs) }, .yield item true)

/-- The body of `poll_next`'s loop for one upstream; `ended` is the `ClientError` "upstream stream
ended unexpectedly". -/
def pollSlot (u : Slot R I N E ε) : Slot R I N E ε × SlotResult (Item R I N E ε) :=
  match u.stream with
  | none => (u, .next false)
  | some (k, msgs) =>
    match pollMessages msgs with
    | (.pending, msgs) => ({ u with stream := some (k, msgs) }, .next true)
    | (.ready none, msgs) => failWith mode u k msgs (.error ended)
    | (.ready (some (.error e)), msgs) => failWith mode u k msgs (.error e)
    | (.ready (some (.ok m)), msgs) =>
      match m with
      | .response r _ => ({ stream := none, terminalMessage := some (k, r) }, .next false)
      | .error e => failWith mode u k msgs (.ok (.error e))
      | .request q => ({ u with stream := some (k, msgs) }, .yield (.ok (.request q)) false)
      | .notification n => ({ u with stream := some (k, msgs) }, .yield (.ok (.notification n)) false)

/-- How the loop ends: returning an item from the upstream at an index, or after the last upstream
with `any_pending`. -/
inductive Outcome (α : Type) where
  | yield (i : Nat) (item : α) (complete : Bool)
  | done (anyPending : Bool)

def Outcome.shift {α : Type} : Outcome α → Outcome α
  | .yield i x c => .yield (i + 1) x c
  | .done p => .done p

def Outcome.itemsAt {α : Type} (i : Nat) : Outcome α → List α
  | .yield j x _ => if j = i then [x] else []
  | .done _ => []

/-- `poll_next`'s loop from one upstream on, with `any_pending` so far; the index of a returned
item counts from that upstream. -/
def scan : List (Slot R I N E ε) → Bool → List (Slot R I N E ε) × Outcome (Item R I N E ε)
  | [], anyPending => ([], .done anyPending)
  | u :: us, anyPending =>
    match pollSlot mode ended u with
    | (u', .yield x c) => (u' :: us, .yield 0 x c)
    | (u', .next p) =>
      let r := scan us (anyPending || p)
      (u' :: r.1, r.2.shift)

end Poll

inductive Polled (α : Type) where
  | upstream (i : Nat) (item : α)
  | merged (item : α)
  | ended
  | pending

def Polled.toPoll {α : Type} : Polled α → Poll (Option α)
  | .upstream _ x => .ready (some x)
  | .merged x => .ready (some x)
  | .ended => .ready none
  | .pending => .pending

def Polled.fromUpstream {α : Type} (i : Nat) : Polled α → Option α
  | .upstream j x => if j = i then some x else none
  | _ => none

def mergeTerminalMessages (st : MergeStream R I N E ε) (merge : List (String × R) → Except ε R) :
    MergeStream R I N E ε × Item R I N E ε :=
  ({ st with slots := st.slots.map fun u => { u with terminalMessage := none }, merge := none },
    (merge (st.slots.filterMap Slot.terminalMessage)).map fun res => .response res st.reqId)

section Run

variable (ended : ε)

def pollNext (st : MergeStream R I N E ε) : MergeStream R I N E ε × Polled (Item R I N E ε) :=
  if st.complete then (st, .ended)
  else
    match scan st.failureMode ended st.slots false with
    | (slots, .yield i x c) => ({ st with slots := slots, complete := c }, .upstream i x)
    | (slots, .done true) => ({ st with slots := slots }, .pending)
    | (slots, .done false) =>
      match st.merge with
      | some merge =>
        let r := mergeTerminalMessages { st with slots := slots, complete := true } merge
        (r.1, .merged r.2)
      | none => ({ st with slots := slots, complete := true }, .ended)

def run : Nat → MergeStream R I N E ε → List (Polled (Item R I N E ε)) × MergeStream R I N E ε
  | 0, st => ([], st)
  | n + 1, st =>
    let r := run n st
    let s := pollNext ended r.2
    (r.1 ++ [s.2], s.1)

end Run

/-! ### What one upstream's answers become -/

def Poll.isTerminal : Poll (Option (Item R I N E ε)) → Bool
  | .pending => false
  | .ready none => true
  | .ready (some (.error _)) => true
  | .ready (some (.ok (.response _ _))) => true
  | .ready (some (.ok (.error _))) => true
  | .ready (some (.ok (.request _))) => false
  | .ready (some (.ok (.notification _))) => false

def Poll.response? : Poll (Option (Item R I N E ε)) → Option R
  | .ready (some (.ok (.response r _))) => some r
  | _ => none

/-- What `poll_next` returns of an answer: requests and notifications, and failures with
`FailClosed`. -/
def visible (mode : FailureMode) (ended : ε) : Poll (Option (Item R I N E ε)) → Option (Item R I N E ε)
  | .pending => none
  | .ready none => if mode = .failClosed then some (.error ended) else none
  | .ready (some (.error e)) => if mode = .failClosed then some (.error e) else none
  | .ready (some (.ok (.response _ _))) => none
  | .ready (some (.ok (.error e))) => if mode = .failClosed then some (.ok (.error e)) else none
  | .ready (some (.ok (.request q))) => some (.ok (.request q))
  | .ready (some (.ok (.notification n))) => some (.ok (.notification n))

/-- The merge goes on past an answer: it is not terminal, or it is a response or a failure skipped
with `FailOpen`. -/
def Poll.passes (mode : FailureMode) (p : Poll (Option (Item R I N E ε))) : Bool :=
  !p.isTerminal || p.response?.isSome || mode == .failOpen

/-- Upstream `(k, s)` after the polls of its slot while the merge goes on: they have read `pre`, in
which only the last answer ends the upstream, and returned the visible answers of it; the slot
still polls the rest, or has been dropped keeping a response. -/
def SlotInv (mode : FailureMode) (ended : ε) (k : String) (s pre : Messages R I N E ε) (u : Slot R I N E ε)
    (items : List (Item R I N E ε)) : Prop :=
  pre <+: s ∧ items = pre.filterMap (visible mode ended) ∧
    ((∀ p ∈ pre, p.isTerminal = false) ∧ u = ⟨some (k, s.drop pre.length), none⟩ ∨
     ∃ pre' p, pre = pre' ++ [p] ∧ (∀ q ∈ pre', q.isTerminal = false) ∧ p.isTerminal = true ∧
       p.passes mode = true ∧ u = ⟨none, p.response?.map (k, ·)⟩)

/-- What the merge returned from an upstream: the visible answers of a part of its answers read in
order, in which only the last can end the upstream. -/
def Read (mode : FailureMode) (ended : ε) (s : Messages R I N E ε) (items : List (Item R I N E ε)) : Prop :=
  ∃ pre, pre <+: s ∧ (∀ q ∈ pre.dropLast, q.isTerminal = false) ∧ items = pre.filterMap (visible mode ended)

/-- An upstream has finished for the merge: the part of its answers read ends with its first
terminal answer, a response or a failure skipped with `FailOpen`. -/
def Done (mode : FailureMode) (s pre : Messages R I N E ε) : Prop :=
  pre <+: s ∧ (∀ q ∈ pre.dropLast, q.isTerminal = false) ∧
    ∃ p, pre.getLast? = some p ∧ p.isTerminal = true ∧ p.passes mode = true

section Slots

variable {mode : FailureMode} {ended : ε}

lemma slotInv_init (k : String) (s : Messages R I N E ε) :
    SlotInv mode ended k s [] ⟨some (k, s), none⟩ [] :=
  ⟨List.nil_prefix, rfl, Or.inl ⟨by simp, rfl⟩⟩

lemma pollSlot_of_stream_none {u : Slot R I N E ε} (h : u.stream = none) :
    pollSlot mode ended u = (u, .next false) := by
  rw [pollSlot, h]

lemma pollSlot_nil (k : String) :
    pollSlot mode ended (⟨some (k, []), none⟩ : Slot R I N E ε) = (⟨some (k, []), none⟩, .next true) := rfl

lemma pollSlot_cons (mode : FailureMode) (ended : ε) (k : String) (p : Poll (Option (Item R I N E ε))) (rest : Messages R I N E ε) :
    (pollSlot mode ended ⟨some (k, p :: rest), none⟩).2.items = (visible mode ended p).toList ∧
    (pollSlot mode ended ⟨some (k, p :: rest), none⟩).2.completes = !p.passes mode ∧
    (p.passes mode = true → (pollSlot mode ended ⟨some (k, p :: rest), none⟩).1 =
      if p.isTerminal then ⟨none, p.response?.map (k, ·)⟩ else ⟨some (k, rest), none⟩) := by
  rcases p with (_ | (_ | (_ | _ | _ | _))) | _ <;> cases mode <;>
    simp [pollSlot, pollMessages, failWith, visible, Poll.isTerminal, Poll.passes, Poll.response?,
      SlotResult.items, SlotResult.completes]

lemma prefix_snoc_of_drop {s pre rest : Messages R I N E ε} {p : Poll (Option (Item R I N E ε))}
    (hpre : pre <+: s) (hdrop : s.drop pre.length = p :: rest) :
    pre ++ [p] <+: s ∧ s.drop (pre ++ [p]).length = rest := by
  have hs : pre ++ p :: rest = s := by rw [← hdrop]; exact List.prefix_iff_eq_append.1 hpre
  refine ⟨⟨rest, by simpa using hs⟩, ?_⟩
  rw [← hs]
  simp

lemma SlotInv.read {k : String} {s pre : Messages R I N E ε} {u : Slot R I N E ε} {items : List (Item R I N E ε)}
    (h : SlotInv mode ended k s pre u items) : Read mode ended s items := by
  obtain ⟨hpre, hitems, ⟨hlive, -⟩ | ⟨pre', p, rfl, hpre', -, -, -⟩⟩ := h
  · exact ⟨pre, hpre, fun q hq => hlive q (List.dropLast_subset _ hq), hitems⟩
  · exact ⟨pre' ++ [p], hpre, by simpa using hpre', hitems⟩

lemma SlotInv.done {k : String} {s pre : Messages R I N E ε} {u : Slot R I N E ε} {items : List (Item R I N E ε)}
    (h : SlotInv mode ended k s pre u items) (hu : u.stream = none) :
    Done mode s pre ∧ u.terminalMessage = (pre.getLast?.bind Poll.response?).map (k, ·) := by
  obtain ⟨hpre, -, ⟨-, rfl⟩ | ⟨pre', p, rfl, hpre', hp, hpass, rfl⟩⟩ := h
  · cases hu
  · exact ⟨⟨hpre, by simpa using hpre', p, by simp, hp, hpass⟩, by simp⟩

lemma pollSlot_next_false {u : Slot R I N E ε} (h : (pollSlot mode ended u).2 = .next false) :
    (pollSlot mode ended u).1.stream = none := by
  rcases u with ⟨_ | ⟨k, _ | ⟨p, rest⟩⟩, t⟩
  · rfl
  · cases h
  · rcases p with (_ | (_ | (_ | _ | _ | _))) | _ <;> cases mode <;>
      simp_all [pollSlot, pollMessages, failWith]

lemma SlotInv.poll {k : String} {s pre : Messages R I N E ε} {u : Slot R I N E ε} {items : List (Item R I N E ε)}
    (h : SlotInv mode ended k s pre u items) (hc : (pollSlot mode ended u).2.completes = false) :
    ∃ pre', SlotInv mode ended k s pre' (pollSlot mode ended u).1 (items ++ (pollSlot mode ended u).2.items) := by
  obtain ⟨hpre, hitems, ⟨hlive, rfl⟩ | ⟨pre', p, rfl, hpre', hp, hpass, hu⟩⟩ := h
  · cases hrest : s.drop pre.length with
    | nil =>
      -- no answer left: the poll is `Pending` and reads nothing
      refine ⟨pre, hpre, by simp [pollSlot_nil, hitems, SlotResult.items], Or.inl ⟨hlive, ?_⟩⟩
      rw [hrest, pollSlot_nil]
    | cons p rest =>
      obtain ⟨hitem, hcompl, hslot⟩ := pollSlot_cons mode ended k p rest
      obtain ⟨hpre', hdrop⟩ := prefix_snoc_of_drop hpre hrest
      rw [hrest] at hc
      have hpass : p.passes mode = true := by simpa [hc] using hcompl
      refine ⟨pre ++ [p], hpre', ?_, ?_⟩
      · rw [hitem, hitems, List.filterMap_append]
        cases h : visible mode ended p <;> simp [h]
      rw [hslot hpass]
      split_ifs with hterm
      · exact Or.inr ⟨pre, p, rfl, hlive, hterm, hpass, rfl⟩
      · refine Or.inl ⟨fun q hq => ?_, by rw [hdrop]⟩
        rcases List.mem_append.1 hq with hq | hq
        · exact hlive q hq
        · rw [List.mem_singleton.1 hq]
          simpa using hterm
  · -- a dropped upstream is skipped
    subst hu
    rw [pollSlot_of_stream_none rfl]
    exact ⟨pre' ++ [p], hpre, by simp [hitems, SlotResult.items], Or.inr ⟨pre', p, rfl, hpre', hp, hpass, rfl⟩⟩

lemma SlotInv.poll_completes {k : String} {s pre : Messages R I N E ε} {u : Slot R I N E ε}
    {items : List (Item R I N E ε)} (h : SlotInv mode ended k s pre u items)
    (hc : (pollSlot mode ended u).2.completes = true) :
    ∃ p, pre ++ [p] <+: s ∧ (∀ q ∈ pre, q.isTerminal = false) ∧ p.passes mode = false ∧
      items ++ (pollSlot mode ended u).2.items = (pre ++ [p]).filterMap (visible mode ended) := by
  obtain ⟨hpre, hitems, ⟨hlive, rfl⟩ | ⟨pre', p, rfl, -, -, -, hu⟩⟩ := h
  · cases hrest : s.drop pre.length with
    | nil =>
      rw [hrest, pollSlot_nil] at hc
      cases hc
    | cons p rest =>
      obtain ⟨hitem, hcompl, -⟩ := pollSlot_cons mode ended k p rest
      rw [hrest] at hc
      refine ⟨p, (prefix_snoc_of_drop hpre hrest).1, hlive, by simpa [hc] using hcompl, ?_⟩
      rw [hitem, hitems, List.filterMap_append]
      cases h : visible mode ended p <;> simp [h]
  · subst hu
    rw [pollSlot_of_stream_none rfl] at hc
    cases hc

end Slots

/-! ### The loop over the upstreams -/

section Scan

variable {mode : FailureMode} {ended : ε}

lemma Outcome.shift_eq_yield_succ {α : Type} {o : Outcome α} {i : Nat} {x : α} {c : Bool} :
    o.shift = .yield (i + 1) x c ↔ o = .yield i x c := by
  cases o <;> simp [Outcome.shift]

lemma Outcome.shift_ne_yield_zero {α : Type} (o : Outcome α) (x : α) (c : Bool) : o.shift ≠ .yield 0 x c := by
  cases o <;> simp [Outcome.shift]

lemma Outcome.shift_eq_done {α : Type} {o : Outcome α} {p : Bool} : o.shift = .done p ↔ o = .done p := by
  cases o <;> simp [Outcome.shift]

lemma Outcome.itemsAt_of_yield {α : Type} {o : Outcome α} {i : Nat} {r : SlotResult α}
    (h : ∀ x c, r = .yield x c ↔ o = .yield i x c) : r.items = o.itemsAt i := by
  cases r with
  | next p =>
    cases o with
    | yield j x c =>
      have hj : j ≠ i := by
        rintro rfl
        exact absurd ((h x c).2 rfl) (by simp)
      simp [SlotResult.items, Outcome.itemsAt, hj]
    | done q => rfl
  | yield x c => simp [SlotResult.items, (h x c).1 rfl, Outcome.itemsAt]

lemma scan_length (mode : FailureMode) (ended : ε) (us : List (Slot R I N E ε)) (ap : Bool) : (scan mode ended us ap).1.length = us.length := by
  induction us generalizing ap with
  | nil => rfl
  | cons u us ih =>
    rw [scan]
    split
    · rfl
    · simp [ih]

lemma scan_slot (mode : FailureMode) (ended : ε) (us : List (Slot R I N E ε)) (ap : Bool) (i : Nat) (u : Slot R I N E ε) (hu : us[i]? = some u) :
    ∃ u', (scan mode ended us ap).1[i]? = some u' ∧
      ((u' = u ∧ ∃ j x c, (scan mode ended us ap).2 = .yield j x c ∧ j < i) ∨
       ∃ r, pollSlot mode ended u = (u', r) ∧ ∀ x c, r = .yield x c ↔ (scan mode ended us ap).2 = .yield i x c) := by
  induction us generalizing ap i with
  | nil => cases hu
  | cons v us ih =>
    rw [scan]
    rcases hpoll : pollSlot mode ended v with ⟨v', _ | _⟩
    · -- `v` goes on to the next upstream
      rename_i q
      cases i with
      | zero =>
        cases hu
        exact ⟨v', rfl, Or.inr ⟨.next q, hpoll, fun x c => by simp [Outcome.shift_ne_yield_zero]⟩⟩
      | succ i =>
        obtain ⟨u', hu', h⟩ := ih (ap || q) i (by simpa using hu)
        refine ⟨u', by simpa using hu', ?_⟩
        rcases h with ⟨rfl, j, x, c, hj, hji⟩ | ⟨r, hr, hiff⟩
        · exact Or.inl ⟨rfl, j + 1, x, c, Outcome.shift_eq_yield_succ.2 hj, by omega⟩
        · exact Or.inr ⟨r, hr, fun x c => by simp only [hiff, Outcome.shift_eq_yield_succ]⟩
    · -- the loop returns from `v`
      rename_i x c
      cases i with
      | zero =>
        cases hu
        exact ⟨v', rfl, Or.inr ⟨.yield x c, hpoll, fun x' c' => by simp [and_comm]⟩⟩
      | succ i =>
        exact ⟨u, by simpa using hu, Or.inl ⟨rfl, 0, x, c, rfl, by omega⟩⟩

lemma scan_done (us : List (Slot R I N E ε)) (ap p : Bool) (h : (scan mode ended us ap).2 = .done p) :
    (∀ (i : Nat) (u : Slot R I N E ε), us[i]? = some u → ∃ q, (scan mode ended us ap).1[i]? = some (pollSlot mode ended u).1 ∧
      (pollSlot mode ended u).2 = .next q) ∧
    (p = true ↔ ap = true ∨ ∃ (i : Nat) (u : Slot R I N E ε), us[i]? = some u ∧ (pollSlot mode ended u).2 = .next true) := by
  induction us generalizing ap with
  | nil =>
    cases h
    simp
  | cons v us ih =>
    rw [scan] at h ⊢
    rcases hpoll : pollSlot mode ended v with ⟨v', _ | _⟩
    · rename_i q
      rw [hpoll] at h
      obtain ⟨hall, hp⟩ := ih (ap || q) (Outcome.shift_eq_done.1 h)
      refine ⟨fun i u hu => ?_, ?_⟩
      · cases i with
        | zero =>
          cases hu
          exact ⟨q, by simp [hpoll], by rw [hpoll]⟩
        | succ i => simpa using hall i u (by simpa using hu)
      · rw [hp]
        constructor
        · rintro (hq | ⟨i, u, hu, hnext⟩)
          · rcases Bool.or_eq_true_iff.1 hq with hq | hq
            · exact Or.inl hq
            · exact Or.inr ⟨0, v, rfl, by rw [hpoll, hq]⟩
          · exact Or.inr ⟨i + 1, u, by simpa using hu, hnext⟩
        · rintro (hq | ⟨i, u, hu, hnext⟩)
          · exact Or.inl (by simp [hq])
          · cases i with
            | zero =>
              cases hu
              rw [hpoll] at hnext
              cases hnext
              exact Or.inl (by simp)
            | succ i => exact Or.inr ⟨i, u, by simpa using hu, hnext⟩
    · rw [hpoll] at h
      cases h

end Scan

/-! ### The upstreams together -/

section Slots

variable (mode : FailureMode) (ended : ε)

/-- The slots of the merge against the upstreams' answers, while it goes on: each upstream's slot is
as some part of its answers read by its polls leaves it, having returned what the merge returned
from it. -/
def SlotsInv (ups : List (String × Messages R I N E ε)) (slots : List (Slot R I N E ε))
    (outs : List (Polled (Item R I N E ε))) : Prop :=
  slots.length = ups.length ∧
  ∀ (i : Nat) (k : String) (s : Messages R I N E ε) (u : Slot R I N E ε), ups[i]? = some (k, s) →
    slots[i]? = some u → ∃ pre, SlotInv mode ended k s pre u (outs.filterMap (Polled.fromUpstream i))

variable {mode ended}

lemma slotsInv_init (ups : List (String × Messages R I N E ε)) :
    SlotsInv mode ended ups (ups.map fun s => ⟨some s, none⟩) [] := by
  refine ⟨by simp, fun i k s u hup hu => ⟨[], ?_⟩⟩
  rw [List.getElem?_map, hup] at hu
  cases hu
  exact slotInv_init k s

lemma filterMap_fromUpstream_append {α : Type} (outs : List (Polled α)) (o : Polled α) (i : Nat) :
    (outs ++ [o]).filterMap (Polled.fromUpstream i) = outs.filterMap (Polled.fromUpstream i) ++ (o.fromUpstream i).toList := by
  rw [List.filterMap_append]
  cases h : o.fromUpstream i <;> simp [h]

lemma SlotsInv.of_scan {ups : List (String × Messages R I N E ε)} {slots : List (Slot R I N E ε)}
    {outs : List (Polled (Item R I N E ε))} (h : SlotsInv mode ended ups slots outs) (ap : Bool)
    (o : Polled (Item R I N E ε)) (hnot : ∀ i x, (scan mode ended slots ap).2 ≠ .yield i x true)
    (ho : ∀ i, (o.fromUpstream i).toList = (scan mode ended slots ap).2.itemsAt i) :
    SlotsInv mode ended ups (scan mode ended slots ap).1 (outs ++ [o]) := by
  refine ⟨(scan_length mode ended slots ap).trans h.1, fun i k s u' hup hu' => ?_⟩
  obtain ⟨u, hu⟩ : ∃ u, slots[i]? = some u := by
    have hi : i < slots.length := by
      rw [← scan_length mode ended slots ap]
      exact (List.getElem?_eq_some_iff.1 hu').1
    exact ⟨_, List.getElem?_eq_getElem hi⟩
  obtain ⟨pre, hinv⟩ := h.2 i k s u hup hu
  obtain ⟨u'', hu'', hcase⟩ := scan_slot mode ended slots ap i u hu
  rw [hu'] at hu''
  cases hu''
  rw [filterMap_fromUpstream_append, ho]
  rcases hcase with ⟨rfl, j, x, c, hj, hji⟩ | ⟨r, hr, hiff⟩
  · -- an upstream after the one the loop returns from is left as it was
    refine ⟨pre, ?_⟩
    simpa [hj, Outcome.itemsAt, Nat.ne_of_lt hji] using hinv
  · have hc : r.completes = false := by
      cases r with
      | next q => rfl
      | yield x c =>
        cases c
        · rfl
        · exact absurd ((hiff x true).1 rfl) (hnot i x)
    have hpoll := hinv.poll (by rw [hr]; exact hc)
    rw [hr, Outcome.itemsAt_of_yield hiff] at hpoll
    exact hpoll

end Slots

/-! ### How the loop ends -/

section Ends

variable {mode : FailureMode} {ended : ε}

lemma scan_yield {us : List (Slot R I N E ε)} {ap : Bool} {i : Nat} {x : Item R I N E ε} {c : Bool}
    (h : (scan mode ended us ap).2 = .yield i x c) :
    ∃ u, us[i]? = some u ∧ (pollSlot mode ended u).2 = .yield x c := by
  induction us generalizing ap i with
  | nil => cases h
  | cons v us ih =>
    rw [scan] at h
    rcases hpoll : pollSlot mode ended v with ⟨v', _ | _⟩
    · rename_i q
      rw [hpoll] at h
      cases i with
      | zero => exact absurd h (Outcome.shift_ne_yield_zero _ _ _)
      | succ i =>
        obtain ⟨u, hu, hy⟩ := ih (Outcome.shift_eq_yield_succ.1 h)
        exact ⟨u, by simpa using hu, hy⟩
    · rw [hpoll] at h
      cases h
      exact ⟨v, rfl, by rw [hpoll]⟩

lemma SlotsInv.completes_of_scan {ups : List (String × Messages R I N E ε)} {slots : List (Slot R I N E ε)}
    {outs : List (Polled (Item R I N E ε))} (h : SlotsInv mode ended ups slots outs) {ap : Bool} {i : Nat}
    {x : Item R I N E ε} (hs : (scan mode ended slots ap).2 = .yield i x true) :
    ∃ k s pre p, ups[i]? = some (k, s) ∧ pre ++ [p] <+: s ∧ (∀ q ∈ pre, q.isTerminal = false) ∧
      p.passes mode = false ∧
      (outs ++ [Polled.upstream i x]).filterMap (Polled.fromUpstream i) = (pre ++ [p]).filterMap (visible mode ended) := by
  obtain ⟨u, hu, hy⟩ := scan_yield hs
  obtain ⟨⟨k, s⟩, hup⟩ : ∃ up, ups[i]? = some up := by
    have hi : i < ups.length := h.1 ▸ (List.getElem?_eq_some_iff.1 hu).1
    exact ⟨_, List.getElem?_eq_getElem hi⟩
  obtain ⟨pre, hinv⟩ := h.2 i k s u hup hu
  obtain ⟨p, hpre, hlive, hpass, hitems⟩ := hinv.poll_completes (by rw [hy]; rfl)
  refine ⟨k, s, pre, p, hup, hpre, hlive, hpass, ?_⟩
  rw [filterMap_fromUpstream_append, ← hitems, hy]
  simp [Polled.fromUpstream, SlotResult.items]

lemma SlotsInv.done_of_scan {ups : List (String × Messages R I N E ε)} {slots : List (Slot R I N E ε)}
    {outs : List (Polled (Item R I N E ε))} (h : SlotsInv mode ended ups slots outs)
    (hs : (scan mode ended slots false).2 = .done false) :
    ∀ (i : Nat) (k : String) (s : Messages R I N E ε) (u : Slot R I N E ε), ups[i]? = some (k, s) →
      (scan mode ended slots false).1[i]? = some u → ∃ pre, Done mode s pre ∧
        outs.filterMap (Polled.fromUpstream i) = pre.filterMap (visible mode ended) ∧
        u.terminalMessage = (pre.getLast?.bind Poll.response?).map (k, ·) := by
  intro i k s u' hup hu'
  have hinv := h.of_scan false .pending (by simp [hs]) (fun j => by simp [hs, Polled.fromUpstream, Outcome.itemsAt])
  obtain ⟨pre, hslot⟩ := hinv.2 i k s u' hup hu'
  rw [filterMap_fromUpstream_append] at hslot
  obtain ⟨u, hu⟩ : ∃ u, slots[i]? = some u := by
    have hi : i < slots.length := by
      rw [← scan_length mode ended slots false]
      exact (List.getElem?_eq_some_iff.1 hu').1
    exact ⟨_, List.getElem?_eq_getElem hi⟩
  obtain ⟨q, hnew, hnext⟩ := (scan_done slots false false hs).1 i u hu
  rw [hu'] at hnew
  cases hnew
  have hq : q = false := by
    cases q
    · rfl
    · -- an upstream that was `Pending` would have made the loop see it
      have hpending := (scan_done slots false false hs).2.2 (Or.inr ⟨i, u, hu, hnext⟩)
      cases hpending
  subst hq
  obtain ⟨hdone, hterm⟩ := hslot.done (pollSlot_next_false hnext)
  exact ⟨pre, hdone, by simpa [Polled.fromUpstream] using hslot.2.1, hterm⟩

end Ends

/-! ### Runs of the merge -/

lemma exists_list_of_getElem? {α β : Type} (l : List α) (P : Nat → α → β → Prop)
    (h : ∀ (i : Nat) (a : α), l[i]? = some a → ∃ b, P i a b) :
    ∃ m : List β, m.length = l.length ∧ ∀ (i : Nat) (a : α) (b : β), l[i]? = some a → m[i]? = some b → P i a b := by
  induction l generalizing P with
  | nil => exact ⟨[], rfl, fun i a b ha => by simp at ha⟩
  | cons a l ih =>
    obtain ⟨b, hb⟩ := h 0 a rfl
    obtain ⟨m, hm, hP⟩ := ih (fun i => P (i + 1)) (fun i a' ha' => h (i + 1) a' (by simpa using ha'))
    refine ⟨b :: m, by simp [hm], fun i a' b' ha' hb' => ?_⟩
    cases i with
    | zero =>
      cases ha'
      cases hb'
      exact hb
    | succ i => exact hP i a' b' (by simpa using ha') (by simpa using hb')

section Runs

variable (mode : FailureMode) (ended : ε) (ups : List (String × Messages R I N E ε)) (reqId : I)
  (merge : Option (List (String × R) → Except ε R))

structure Going (outs : List (Polled (Item R I N E ε))) (st : MergeStream R I N E ε) : Prop where
  notComplete : st.complete = false
  mode_eq : st.failureMode = mode
  reqId_eq : st.reqId = reqId
  merge_eq : st.merge = merge
  slotsInv : SlotsInv mode ended ups st.slots outs
  messages : ∀ o ∈ outs, o = .pending ∨ ∃ i x, o = .upstream i x

def terminalResponses (pres : List (Messages R I N E ε)) : List (String × R) :=
  (List.zipWith (fun up pre => (List.getLast? pre).bind Poll.response? |>.map (up.1, ·)) ups pres).filterMap id

def AllDone (outs : List (Polled (Item R I N E ε))) (pres : List (Messages R I N E ε)) : Prop :=
  pres.length = ups.length ∧
  ∀ (i : Nat) (k : String) (s pre : Messages R I N E ε), ups[i]? = some (k, s) → pres[i]? = some pre →
    Done mode s pre ∧ outs.filterMap (Polled.fromUpstream i) = pre.filterMap (visible mode ended)

/-- The response an upstream ends with, if it ends with one: the result of its first answer that
ends it, under the upstream's name. -/
def endResponse (up : String × Messages R I N E ε) : Option (String × R) :=
  (up.2.find? Poll.isTerminal).bind Poll.response? |>.map (up.1, ·)

/-- The item with which the merge ends, after returning `outs` while it went on: with
`FailClosed`, the failure of an upstream whose earlier answers it returned; or, once every upstream
has finished, the merge function's result on their responses in upstream order, or the end when
there is no merge function. -/
def Final (outs : List (Polled (Item R I N E ε))) : Polled (Item R I N E ε) → Prop
  | .upstream i x => mode = .failClosed ∧ ∃ k s pre p, ups[i]? = some (k, s) ∧ pre ++ [p] <+: s ∧
      (∀ q ∈ pre, q.isTerminal = false) ∧ p.passes mode = false ∧
      (outs ++ [Polled.upstream i x]).filterMap (Polled.fromUpstream i) = (pre ++ [p]).filterMap (visible mode ended)
  | .merged x => ∃ m, merge = some m ∧ (∃ pres, AllDone mode ended ups outs pres) ∧
      x = (m (ups.filterMap endResponse)).map fun res => .response res reqId
  | .ended => merge = none ∧ ∃ pres, AllDone mode ended ups outs pres
  | .pending => False

end Runs

section Runs

variable {mode : FailureMode} {ended : ε} {ups : List (String × Messages R I N E ε)}

lemma exists_getElem?_of_length {α β : Type} {l : List α} {m : List β} (hlen : l.length = m.length) {i : Nat} {b : β}
    (hb : m[i]? = some b) : ∃ a, l[i]? = some a := by
  have hi : i < l.length := hlen ▸ (List.getElem?_eq_some_iff.1 hb).1
  exact ⟨_, List.getElem?_eq_getElem hi⟩

lemma SlotsInv.allDone_of_scan {slots : List (Slot R I N E ε)} {outs : List (Polled (Item R I N E ε))}
    (h : SlotsInv mode ended ups slots outs) (hs : (scan mode ended slots false).2 = .done false) :
    ∃ pres, AllDone mode ended ups outs pres ∧
      (scan mode ended slots false).1.filterMap Slot.terminalMessage = terminalResponses ups pres := by
  have hlen : (scan mode ended slots false).1.length = ups.length := (scan_length mode ended slots false).trans h.1
  obtain ⟨pres, hpres, hP⟩ := exists_list_of_getElem? ups
    (fun i up pre => Done mode up.2 pre ∧
      outs.filterMap (Polled.fromUpstream i) = pre.filterMap (visible mode ended) ∧
      ∀ u, (scan mode ended slots false).1[i]? = some u →
        u.terminalMessage = (pre.getLast?.bind Poll.response?).map (up.1, ·))
    (fun i ⟨k, s⟩ hup => by
      obtain ⟨u, hu⟩ := exists_getElem?_of_length hlen hup
      obtain ⟨pre, hdone, hitems, hterm⟩ := h.done_of_scan hs i k s u hup hu
      exact ⟨pre, hdone, hitems, fun u' hu' => by rw [hu] at hu'; cases hu'; exact hterm⟩)
  refine ⟨pres, ⟨hpres, fun i k s pre hup hpre => (hP i (k, s) pre hup hpre).imp_right And.left⟩, ?_⟩
  have hid : (scan mode ended slots false).1.filterMap Slot.terminalMessage =
      ((scan mode ended slots false).1.map Slot.terminalMessage).filterMap id := by
    rw [List.filterMap_map]
    rfl
  rw [terminalResponses, hid]
  congr 1
  apply List.ext_getElem?
  intro i
  rw [List.getElem?_map, List.getElem?_zipWith]
  cases hu : (scan mode ended slots false).1[i]? with
  | none =>
    have hi : ups.length ≤ i := hlen ▸ List.getElem?_eq_none_iff.1 hu
    rw [List.getElem?_eq_none_iff.2 hi]
    rfl
  | some u =>
    obtain ⟨⟨k, s⟩, hup⟩ := exists_getElem?_of_length hlen.symm hu
    obtain ⟨pre, hpre⟩ := exists_getElem?_of_length hpres hup
    rw [hup, hpre]
    simp [(hP i (k, s) pre hup hpre).2.2 u hu]

lemma Done.getLast?_eq_find? {s pre : Messages R I N E ε} (h : Done mode s pre) :
    pre.getLast? = s.find? Poll.isTerminal := by
  obtain ⟨⟨t, rfl⟩, hlive, p, hp, hterm, -⟩ := h
  obtain ⟨pre', rfl⟩ := List.getLast?_eq_some_iff.1 hp
  rw [List.dropLast_concat] at hlive
  have hnone : pre'.find? Poll.isTerminal = none := List.find?_eq_none.2 (by simpa using hlive)
  simp [List.find?_append, hnone, hterm]

lemma terminalResponses_of_allDone {outs : List (Polled (Item R I N E ε))} {pres : List (Messages R I N E ε)}
    (h : AllDone mode ended ups outs pres) : terminalResponses ups pres = ups.filterMap endResponse := by
  have hzip : List.zipWith (fun up pre => (List.getLast? pre).bind Poll.response? |>.map (up.1, ·)) ups pres =
      ups.map endResponse := by
    apply List.ext_getElem?
    intro i
    rw [List.getElem?_zipWith, List.getElem?_map]
    cases hup : ups[i]? with
    | none => rfl
    | some up =>
      obtain ⟨pre, hpre⟩ := exists_getElem?_of_length h.1 hup
      rw [hpre]
      simp [endResponse, (h.2 i up.1 up.2 pre hup hpre).1.getLast?_eq_find?]
  rw [terminalResponses, hzip, List.filterMap_map]
  rfl

lemma Poll.failClosed_of_passes_false {mode : FailureMode} {p : Poll (Option (Item R I N E ε))}
    (h : p.passes mode = false) : mode = .failClosed := by
  cases mode
  · rfl
  · simp [Poll.passes] at h

lemma Going.step {reqId : I} {merge : Option (List (String × R) → Except ε R)} {outs : List (Polled (Item R I N E ε))}
    {st : MergeStream R I N E ε} (h : Going mode ended ups reqId merge outs st) :
    Going mode ended ups reqId merge (outs ++ [(pollNext ended st).2]) (pollNext ended st).1 ∨
    ((pollNext ended st).1.complete = true ∧ Final mode ended ups reqId merge outs (pollNext ended st).2) := by
  rw [pollNext, if_neg (by simp [h.notComplete]), h.mode_eq]
  rcases hs : scan mode ended st.slots false with ⟨slots, ⟨i, x, c⟩ | ⟨p⟩⟩
  · cases c
    · -- a request or notification of upstream `i`
      left
      have hinv := h.slotsInv.of_scan false (.upstream i x) (by simp [hs])
        (fun j => by by_cases hij : i = j <;> simp [hs, Polled.fromUpstream, Outcome.itemsAt, hij])
      rw [hs] at hinv
      refine ⟨rfl, rfl, h.reqId_eq, h.merge_eq, hinv, fun o ho => ?_⟩
      rcases List.mem_append.1 ho with ho | ho
      · exact h.messages o ho
      · exact Or.inr ⟨i, x, List.mem_singleton.1 ho⟩
    · -- a failure of upstream `i`, with `FailClosed`
      right
      obtain ⟨k, s, pre, p, hup, hpre, hlive, hpass, hitems⟩ := h.slotsInv.completes_of_scan (by rw [hs])
      exact ⟨rfl, Poll.failClosed_of_passes_false hpass, k, s, pre, p, hup, hpre, hlive, hpass, hitems⟩
  · cases p
    · -- every upstream has finished
      right
      obtain ⟨pres, hall, hterm⟩ := h.slotsInv.allDone_of_scan (by rw [hs])
      rw [hs] at hterm
      dsimp only
      rw [h.merge_eq]
      cases merge with
      | some m =>
        refine ⟨rfl, m, rfl, ⟨pres, hall⟩, ?_⟩
        simp only [mergeTerminalMessages, hterm, h.reqId_eq, terminalResponses_of_allDone hall]
      | none => exact ⟨rfl, rfl, pres, hall⟩
    · -- some upstream was `Pending`
      left
      have hinv := h.slotsInv.of_scan false .pending (by simp [hs])
        (fun j => by simp [hs, Polled.fromUpstream, Outcome.itemsAt])
      rw [hs] at hinv
      refine ⟨h.notComplete, rfl, h.reqId_eq, h.merge_eq, hinv, fun o ho => ?_⟩
      rcases List.mem_append.1 ho with ho | ho
      · exact h.messages o ho
      · exact Or.inl (List.mem_singleton.1 ho)

lemma pollNext_of_complete {st : MergeStream R I N E ε} (h : st.complete = true) :
    pollNext ended st = (st, .ended) := by
  rw [pollNext, if_pos h]

lemma going_newInternal (reqId : I) (merge : Option (List (String × R) → Except ε R)) :
    Going mode ended ups reqId merge [] (MergeStream.newInternal ups reqId merge mode) :=
  ⟨rfl, rfl, rfl, rfl, slotsInv_init ups, by simp⟩

lemma run_going_or_final (reqId : I) (merge : Option (List (String × R) → Except ε R)) (n : Nat) :
    Going mode ended ups reqId merge (run ended n (MergeStream.newInternal ups reqId merge mode)).1
      (run ended n (MergeStream.newInternal ups reqId merge mode)).2 ∨
    ∃ outs st fin m, Going mode ended ups reqId merge outs st ∧
      (run ended n (MergeStream.newInternal ups reqId merge mode)).1 = outs ++ fin :: List.replicate m .ended ∧
      (run ended n (MergeStream.newInternal ups reqId merge mode)).2.complete = true ∧
      Final mode ended ups reqId merge outs fin := by
  induction n with
  | zero => exact Or.inl (going_newInternal reqId merge)
  | succ n ih =>
    rw [run]
    rcases ih with hgo | ⟨outs, st, fin, m, hgo, hr, hc, hfin⟩
    · rcases hgo.step with hgo' | ⟨hc, hfin⟩
      · exact Or.inl hgo'
      · exact Or.inr ⟨_, _, _, 0, hgo, by simp, hc, hfin⟩
    · -- a completed merge only returns the end
      rw [pollNext_of_complete hc]
      refine Or.inr ⟨outs, st, fin, m + 1, hgo, ?_, hc, hfin⟩
      rw [hr, List.replicate_succ']
      simp

lemma Going.read {reqId : I} {merge : Option (List (String × R) → Except ε R)} {outs : List (Polled (Item R I N E ε))}
    {st : MergeStream R I N E ε} (h : Going mode ended ups reqId merge outs st) {i : Nat} {k : String}
    {s : Messages R I N E ε} (hup : ups[i]? = some (k, s)) : Read mode ended s (outs.filterMap (Polled.fromUpstream i)) := by
  obtain ⟨u, hu⟩ := exists_getElem?_of_length h.slotsInv.1 hup
  obtain ⟨pre, hinv⟩ := h.slotsInv.2 i k s u hup hu
  exact hinv.read

lemma run_read (reqId : I) (merge : Option (List (String × R) → Except ε R)) (n : Nat) {i : Nat} {k : String}
    {s : Messages R I N E ε} (hup : ups[i]? = some (k, s)) :
    Read mode ended s ((run ended n (MergeStream.newInternal ups reqId merge mode)).1.filterMap (Polled.fromUpstream i)) := by
  rcases run_going_or_final reqId merge n with hgo | ⟨outs, st, fin, m, hgo, hr, -, hfin⟩
  · exact hgo.read hup
  · have hended : (List.replicate m (Polled.ended : Polled (Item R I N E ε))).filterMap (Polled.fromUpstream i) = [] := by
      simp [List.filterMap_replicate, Polled.fromUpstream]
    rw [hr, List.filterMap_append, List.filterMap_cons, hended]
    cases fin with
    | upstream j x =>
      by_cases hji : j = i
      · -- the failure that ended the merge
        subst hji
        obtain ⟨-, k', s', pre, p, hup', hpre, hlive, -, hitems⟩ := hfin
        rw [hup] at hup'
        cases hup'
        rw [filterMap_fromUpstream_append] at hitems
        refine ⟨pre ++ [p], hpre, by simpa using hlive, ?_⟩
        rw [← hitems]
        simp [Polled.fromUpstream]
      · simpa [Polled.fromUpstream, hji] using hgo.read hup
    | merged x => simpa [Polled.fromUpstream] using hgo.read hup
    | ended => simpa [Polled.fromUpstream] using hgo.read hup
    | pending => exact hfin.elim

lemma run_poll_not_after_terminal (reqId : I) (merge : Option (List (String × R) → Except ε R)) (n : Nat)
    (hc : (run ended n (MergeStream.newInternal ups reqId merge mode)).2.complete = false) {i : Nat} {k k' : String}
    {s rest : Messages R I N E ε} {u : Slot R I N E ε} (hup : ups[i]? = some (k, s))
    (hu : (run ended n (MergeStream.newInternal ups reqId merge mode)).2.slots[i]? = some u)
    (hstream : u.stream = some (k', rest)) : ∃ pre, s = pre ++ rest ∧ ∀ q ∈ pre, q.isTerminal = false := by
  rcases run_going_or_final reqId merge n with hgo | ⟨-, -, -, -, -, -, hc', -⟩
  · obtain ⟨pre, hpre, -, ⟨hlive, hlu⟩ | ⟨pre', p, -, -, -, -, hdrop⟩⟩ := hgo.slotsInv.2 i k s u hup hu
    · rw [hlu] at hstream
      cases hstream
      exact ⟨pre, (List.prefix_iff_eq_append.1 hpre).symm, hlive⟩
    · rw [hdrop] at hstream
      cases hstream
  · rw [hc] at hc'
    cases hc'

end Runs

/-! ### `Pending` and progress -/

section Progress

variable {mode : FailureMode} {ended : ε}

lemma pollSlot_next_true {u : Slot R I N E ε} (h : (pollSlot mode ended u).2 = .next true) :
    ∃ k msgs, u.stream = some (k, msgs) ∧ (pollMessages msgs).1 = .pending := by
  rcases u with ⟨_ | ⟨k, _ | ⟨p, rest⟩⟩, t⟩
  · cases h
  · exact ⟨k, [], rfl, rfl⟩
  · rcases p with (_ | (_ | (_ | _ | _ | _))) | _ <;> cases mode <;>
      simp_all [pollSlot, pollMessages, failWith]

lemma pollNext_pending {st : MergeStream R I N E ε} (h : (pollNext ended st).2 = .pending) :
    ∃ (i : Nat) (u : Slot R I N E ε) (k : String) (msgs : Messages R I N E ε), st.slots[i]? = some u ∧
      u.stream = some (k, msgs) ∧ (pollMessages msgs).1 = .pending := by
  unfold pollNext at h
  -- a completed merge returns the end, which split_ifs discards
  split_ifs at h with hc
  rcases hs : scan st.failureMode ended st.slots false with ⟨slots, ⟨i, x, c⟩ | ⟨_ | _⟩⟩ <;>
    rw [hs] at h
  · cases h
  · -- a loop that saw no `Pending` ends with the merged item or the end
    dsimp only at h
    split at h <;> cases h
  · obtain ⟨i, u, hu, hnext⟩ := ((scan_done st.slots false true (by rw [hs])).2.1 rfl).resolve_left (by simp)
    obtain ⟨k, msgs, hstream, hpend⟩ := pollSlot_next_true hnext
    exact ⟨i, u, k, msgs, hu, hstream, hpend⟩

def Slot.remaining (u : Slot R I N E ε) : Nat :=
  match u.stream with
  | some (_, msgs) => msgs.length
  | none => 0

def Slot.terminalAhead (u : Slot R I N E ε) : Prop :=
  ∀ k msgs, u.stream = some (k, msgs) → ∃ q ∈ msgs, q.isTerminal = true

lemma stream_of_pollSlot_ne (mode : FailureMode) (ended : ε) {u : Slot R I N E ε} (h : (pollSlot mode ended u).2 ≠ .next false) :
    ∃ k msgs, u.stream = some (k, msgs) := by
  rcases hs : u.stream with _ | ⟨k, msgs⟩
  · exact absurd (by rw [pollSlot_of_stream_none hs]) h
  · exact ⟨k, msgs, rfl⟩

lemma pollSlot_progress (mode : FailureMode) (ended : ε) {u : Slot R I N E ε} (hu : u.terminalAhead) :
    ((pollSlot mode ended u).2.completes = false → (pollSlot mode ended u).1.terminalAhead) ∧
    (pollSlot mode ended u).1.remaining ≤ u.remaining ∧
    ((∃ k msgs, u.stream = some (k, msgs)) → (pollSlot mode ended u).1.remaining < u.remaining) := by
  rcases u with ⟨_ | ⟨k, msgs⟩, t⟩
  · refine ⟨fun _ k msgs h => (by cases h), Nat.le_refl _, fun ⟨k, msgs, h⟩ => (by cases h)⟩
  · obtain ⟨q, hq, hterm⟩ := hu k msgs rfl
    rcases msgs with _ | ⟨p, rest⟩
    · cases hq
    · rcases p with (_ | (_ | (_ | _ | _ | _))) | _ <;> cases mode <;>
        simp_all [pollSlot, pollMessages, failWith, Slot.remaining, Slot.terminalAhead, SlotResult.completes,
          Poll.isTerminal]

lemma scan_progress (mode : FailureMode) (ended : ε) (us : List (Slot R I N E ε)) (ap : Bool) (hta : ∀ u ∈ us, u.terminalAhead)
    (hnf : ∀ i x, (scan mode ended us ap).2 ≠ .yield i x true) :
    (∀ u ∈ (scan mode ended us ap).1, u.terminalAhead) ∧
    ((scan mode ended us ap).1.map Slot.remaining).sum ≤ (us.map Slot.remaining).sum ∧
    ((∃ i x c, (scan mode ended us ap).2 = .yield i x c) ∨ ((scan mode ended us ap).2 = .done true ∧ ap = false) →
      ((scan mode ended us ap).1.map Slot.remaining).sum < (us.map Slot.remaining).sum) := by
  induction us generalizing ap with
  | nil =>
    refine ⟨by simp [scan], Nat.le_refl _, ?_⟩
    rintro (⟨i, x, c, h⟩ | ⟨h, rfl⟩) <;> cases h
  | cons v us ih =>
    have hv := hta v List.mem_cons_self
    have hus : ∀ u ∈ us, u.terminalAhead := fun u hu => hta u (List.mem_cons_of_mem v hu)
    rw [scan] at hnf ⊢
    rcases hpoll : pollSlot mode ended v with ⟨v', _ | _⟩
    · rename_i q
      rw [hpoll] at hnf
      obtain ⟨hta', hle, hlt⟩ := pollSlot_progress mode ended hv
      rw [hpoll] at hta' hle hlt
      obtain ⟨ihta, ihle, ihlt⟩ := ih (ap || q) hus
        (fun i x h => hnf (i + 1) x (Outcome.shift_eq_yield_succ.2 h))
      refine ⟨?_, by simpa using Nat.add_le_add hle ihle, ?_⟩
      · intro u hu
        rcases List.mem_cons.1 hu with rfl | hu
        · exact hta' rfl
        · exact ihta u hu
      · rintro (⟨i, x, c, h⟩ | ⟨h, hap⟩)
        · -- the loop returned from an upstream after `v`
          cases i with
          | zero => exact absurd h (Outcome.shift_ne_yield_zero _ _ _)
          | succ i =>
            have := ihlt (Or.inl ⟨i, x, c, Outcome.shift_eq_yield_succ.1 h⟩)
            simpa using Nat.add_lt_add_of_le_of_lt hle this
        · cases q
          · -- `v` did not see `Pending`: some upstream after it did
            have := ihlt (Or.inr ⟨Outcome.shift_eq_done.1 h, by simpa using hap⟩)
            simpa using Nat.add_lt_add_of_le_of_lt hle this
          · -- `v` returned `Pending` and read one answer
            obtain ⟨k, msgs, hstream, -⟩ := pollSlot_next_true (by rw [hpoll])
            have := hlt ⟨k, msgs, hstream⟩
            simpa using Nat.add_lt_add_of_lt_of_le this ihle
    · rename_i x c
      rw [hpoll] at hnf
      have hc : c = false := by
        cases c
        · rfl
        · exact absurd rfl (hnf 0 x)
      subst hc
      obtain ⟨hta', hle, hlt⟩ := pollSlot_progress mode ended hv
      rw [hpoll] at hta' hle hlt
      obtain ⟨k, msgs, hstream⟩ := stream_of_pollSlot_ne mode ended (u := v) (by rw [hpoll]; simp)
      refine ⟨?_, by simpa using hle, fun _ => by simpa using hlt ⟨k, msgs, hstream⟩⟩
      intro u hu
      rcases List.mem_cons.1 hu with rfl | hu
      · exact hta' rfl
      · exact hus u hu

def MergeStream.remaining (st : MergeStream R I N E ε) : Nat := (st.slots.map Slot.remaining).sum

lemma pollNext_progress (ended : ε) {st : MergeStream R I N E ε} (hc : st.complete = false)
    (hta : ∀ u ∈ st.slots, u.terminalAhead) :
    (pollNext ended st).1.complete = true ∨
    ((pollNext ended st).1.complete = false ∧ (∀ u ∈ (pollNext ended st).1.slots, u.terminalAhead) ∧
      (pollNext ended st).1.remaining < st.remaining) := by
  rw [pollNext, if_neg (by simp [hc])]
  have hprog := scan_progress st.failureMode ended st.slots false hta
  rcases hs : scan st.failureMode ended st.slots false with ⟨slots, ⟨i, x, c⟩ | ⟨_ | _⟩⟩ <;>
    rw [hs] at hprog <;> dsimp only at hprog ⊢
  · cases c
    · -- a message: one answer read at least
      obtain ⟨hta', -, hlt⟩ := hprog (fun i' x' h => by cases h)
      exact Or.inr ⟨rfl, hta', hlt (Or.inl ⟨i, x, false, rfl⟩)⟩
    · exact Or.inl rfl
  · -- the merged item or the end completes the merge
    left
    cases st.merge <;> rfl
  · obtain ⟨hta', -, hlt⟩ := hprog (fun i' x' h => by cases h)
    exact Or.inr ⟨hc, hta', hlt (Or.inr ⟨rfl, rfl⟩)⟩

lemma run_completes (ups : List (String × Messages R I N E ε)) (reqId : I)
    (merge : Option (List (String × R) → Except ε R)) (hups : ∀ up ∈ ups, ∃ q ∈ up.2, q.isTerminal = true)
    (n : Nat) (hn : (ups.map fun up => up.2.length).sum < n) :
    (run ended n (MergeStream.newInternal ups reqId merge mode)).2.complete = true := by
  have key : ∀ n, (run ended n (MergeStream.newInternal ups reqId merge mode)).2.complete = true ∨
      ((run ended n (MergeStream.newInternal ups reqId merge mode)).2.complete = false ∧
        (∀ u ∈ (run ended n (MergeStream.newInternal ups reqId merge mode)).2.slots, u.terminalAhead) ∧
        (run ended n (MergeStream.newInternal ups reqId merge mode)).2.remaining + n ≤
          (ups.map fun up => up.2.length).sum) := by
    intro n
    induction n with
    | zero =>
      refine Or.inr ⟨rfl, ?_, ?_⟩
      · intro u hu k msgs hstream
        obtain ⟨up, hup, rfl⟩ := List.mem_map.1 hu
        cases hstream
        exact hups _ hup
      · simp [run, MergeStream.remaining, MergeStream.newInternal, Slot.remaining, Function.comp_def]
    | succ n ih =>
      rw [run]
      dsimp only
      rcases ih with hc | ⟨hc, hta, hle⟩
      · left
        rw [pollNext_of_complete hc]
        exact hc
      · rcases pollNext_progress ended hc hta with hc' | ⟨hc', hta', hlt⟩
        · exact Or.inl hc'
        · exact Or.inr ⟨hc', hta', by omega⟩
  rcases key n with hc | ⟨-, -, hle⟩
  · exact hc
  · omega

end Progress

/-! ### The fan-out merge -/

/-- The fan-out merge over any upstreams' answers, in either failure mode, with or without a merge
function, after any number of polls. -/
theorem merge_stream_fan_out (mode : FailureMode) (ended : ε) (ups : List (String × Messages R I N E ε))
    (reqId : I) (merge : Option (List (String × R) → Except ε R)) (n : Nat) :
    let r := run ended n (MergeStream.newInternal ups reqId merge mode)
    (∀ (i : Nat) (k : String) (s : Messages R I N E ε), ups[i]? = some (k, s) →
      Read mode ended s (r.1.filterMap (Polled.fromUpstream i))) ∧
    (Going mode ended ups reqId merge r.1 r.2 ∨
      ∃ outs st fin m, Going mode ended ups reqId merge outs st ∧
        r.1 = outs ++ fin :: List.replicate m .ended ∧ r.2.complete = true ∧
        Final mode ended ups reqId merge outs fin) ∧
    (∀ (i : Nat) (k k' : String) (s rest : Messages R I N E ε) (u : Slot R I N E ε), r.2.complete = false →
      ups[i]? = some (k, s) → r.2.slots[i]? = some u → u.stream = some (k', rest) →
      ∃ pre, s = pre ++ rest ∧ ∀ q ∈ pre, Poll.isTerminal q = false) ∧
    ((pollNext ended r.2).2 = .pending → ∃ (i : Nat) (u : Slot R I N E ε) (k : String) (msgs : Messages R I N E ε), r.2.slots[i]? = some u ∧
      u.stream = some (k, msgs) ∧ (pollMessages msgs).1 = .pending) ∧
    ((∀ up ∈ ups, ∃ q ∈ up.2, q.isTerminal = true) → (ups.map fun up => up.2.length).sum < n →
      r.2.complete = true) := by
  intro r
  refine ⟨fun i k s hup => run_read reqId merge n hup, run_going_or_final reqId merge n,
    fun i k k' s rest u hc hup hu hs => run_poll_not_after_terminal reqId merge n hc hup hu hs,
    pollNext_pending, fun hups hn => run_completes ups reqId merge hups n hn⟩

/-- Two upstreams: the first fails at once with a JSON-RPC error, the second has a notification
before its response. -/
def failFirst : List (String × Messages Unit Unit Unit Unit Unit) :=
  [("a", [.ready (some (.ok (.error ())))]),
   ("b", [.ready (some (.ok (.notification ()))), .ready (some (.ok (.response () ())))])]

lemma failFirst_run (n : Nat) :
    (run () (n + 1) (MergeStream.newInternal failFirst () none .failClosed)).1 =
      .upstream 0 (.ok (.error ())) :: List.replicate n .ended ∧
    (run () (n + 1) (MergeStream.newInternal failFirst () none .failClosed)).2.complete = true := by
  induction n with
  | zero => exact ⟨rfl, rfl⟩
  | succ n ih =>
    obtain ⟨hr, hc⟩ := ih
    rw [run]
    dsimp only
    rw [pollNext_of_complete hc, hr, List.replicate_succ']
    exact ⟨rfl, hc⟩

/-- Over three calls the second upstream's notification is never returned. -/
theorem fail_closed_ends_before_other_messages :
    (run () 3 (MergeStream.newInternal failFirst () none .failClosed)).1 =
      [.upstream 0 (.ok (.error ())), .ended, .ended] ∧
    (run () 3 (MergeStream.newInternal failFirst () none .failClosed)).2.complete = true :=
  failFirst_run 2

end AgentGateway.Mcp.Fanout
