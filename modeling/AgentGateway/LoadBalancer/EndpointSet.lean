import AgentGateway.LoadBalancer.EndpointGroup
import Mathlib.Data.List.Sort

/-! `EndpointSet` of `types/loadbalancer.rs` with its outlier eviction; an `EndpointInfo` is
named by its allocation, and every call runs as one step. -/

namespace AgentGateway.LoadBalancer

open Library

structure EvictionEvent (K : Type) where
  key : K
  «until» : Nat
  deriving DecidableEq, Repr

structure UnevictEntry (K : Type) where
  «until» : Nat
  key : K
  deriving DecidableEq, Repr

structure ActiveHandle (K : Type) where
  key : K
  info : Nat
  deriving DecidableEq, Repr

inductive EndpointEvent (K T : Type) where
  | add (key : K) (ep : EndpointWithInfo T Nat) (bucket : Nat)
  | delete (key : K)

variable {K T : Type} [LinearOrder K]

/-- `Ord for UnevictEntry`, reversed on the instant so that the max-heap pops the earliest deadline
first. -/
def UnevictEntry.cmp (a b : UnevictEntry K) : Ordering :=
  (compare b.«until» a.«until»).then (compare a.key b.key)

/-- `BinaryHeap::push`, the heap being the list of its entries in pop order: the entry goes before
the first one it is not less than, and `peek` and `pop` read the head. -/
def heapPush (e : UnevictEntry K) (heap : List (UnevictEntry K)) : List (UnevictEntry K) :=
  heap.orderedInsert (fun a b => a.cmp b ≠ .lt) e

structure EndpointSet (K T : Type) where
  buckets : List (EndpointGroup K T Nat)
  evictedUntil : Nat → Option Nat
  nextInfo : Nat
  inFlight : List (EvictionEvent K)
  heap : List (UnevictEntry K)
  handles : List (ActiveHandle K)
  now : Nat

namespace EndpointSet

def newEmpty (priorityLevels : Nat) : EndpointSet K T :=
  ⟨List.replicate priorityLevels EndpointGroup.default, fun _ => none, 0, [], [], [], 0⟩

def holdsKey (key : K) (b : EndpointGroup K T Nat) : Bool :=
  b.active.containsKey key || b.rejected.containsKey key

def findBucket (buckets : List (EndpointGroup K T Nat)) (key : K) : Option (EndpointGroup K T Nat) :=
  buckets.find? (holdsKey key)

def findBucketAtomic (buckets : List (EndpointGroup K T Nat)) (key : K) : Option Nat :=
  buckets.findIdx? (holdsKey key)

def event (s : EndpointSet K T) : EndpointEvent K T → EndpointSet K T
  | .add key ep bucket =>
    -- an add for a bucket out of range is dropped
    if bucket < s.buckets.length then { s with buckets := s.buckets.modify bucket (·.add key ep) } else s
  | .delete key =>
    match findBucketAtomic s.buckets key with
    | some b => { s with buckets := s.buckets.modify b (·.remove key) }
    | none => s

/-- `insert_key` through `EndpointWithInfo::new`: capacity one and a fresh `EndpointInfo`, whose
`evicted_until` is `None`. -/
def insertKey (s : EndpointSet K T) (key : K) (ep : T) (bucket : Nat) : EndpointSet K T :=
  { s with evictedUntil := Function.update s.evictedUntil s.nextInfo none, nextInfo := s.nextInfo + 1 }.event
    (.add key ⟨ep, s.nextInfo, 1⟩ bucket)

def remove (s : EndpointSet K T) (key : K) : EndpointSet K T := s.event (.delete key)

/-- The pools `rebucket` builds from one kind of pool of every bucket, in bucket and index order:
an entry the ranker drops or sends past the last bucket is left out. -/
def redistribute (ranker : T → Option Nat) (n : Nat) (pools : List (Pool K T Nat)) : List (Pool K T Nat) :=
  pools.foldl (fun into pool => pool.entries.foldl (fun into e =>
    match ranker e.2.endpoint with
    | some b => if b < n then into.modify b (·.insert e.1 e.2) else into
    | none => into) into) (List.replicate n IndexMap.empty)

/-- `rebucket`. The source fills `new_active` and `new_rejected` in one pass, but active entries only
go to the first and rejected ones only to the second, so the pass is the two folds. -/
def rebucket (s : EndpointSet K T) (ranker : T → Option Nat) : EndpointSet K T :=
  let newActive := redistribute ranker s.buckets.length (s.buckets.map (·.active))
  let newRejected := redistribute ranker s.buckets.length (s.buckets.map (·.rejected))
  { s with buckets := (newActive.zip newRejected).map fun p => EndpointGroup.fromPools p.1 p.2 }

/-- The compare-and-swap of `evicted_until` from `None` that `EndpointSet::evict` and
`finish_request` both make: only the caller that wins it spawns the `Evict` event. -/
def casEvictedUntil (s : EndpointSet K T) (info : Nat) (key : K) (time : Nat) : EndpointSet K T :=
  if s.evictedUntil info = none then
    { s with
      evictedUntil := Function.update s.evictedUntil info (some time)
      inFlight := s.inFlight ++ [⟨key, time⟩] }
  else s

def evict (s : EndpointSet K T) (key : K) (time : Nat) : EndpointSet K T :=
  match (findBucket s.buckets key).bind (·.active.get key) with
  | some cur => s.casEvictedUntil cur.info key time
  | none => s

/-- `start_request` on an endpoint the set holds, active or rejected: the handle shares its
`EndpointInfo`. Which endpoint `select_endpoint` picks is left open. -/
def startRequest (s : EndpointSet K T) (key : K) : Option (EndpointSet K T) :=
  match (findBucket s.buckets key).bind fun g => (g.active.get key).or (g.rejected.get key) with
  | some ewi => some { s with handles := s.handles ++ [⟨key, ewi.info⟩] }
  | none => none

def finishRequest (s : EndpointSet K T) (i : Nat) (evictionTime : Option Nat) : Option (EndpointSet K T) :=
  s.handles[i]?.map fun h =>
    let s' := { s with handles := s.handles.eraseIdx i }
    match evictionTime with
    | some d => s'.casEvictedUntil h.info h.key (s.now + d)
    | none => s'

/-- `handle_recv_evict`: the deadline is queued and the endpoint evicted in the first bucket that
holds its key, whichever `EndpointInfo` the event was sent for; an event for a key no bucket holds
is dropped. -/
def handleRecvEvict (s : EndpointSet K T) (item : EvictionEvent K) : EndpointSet K T :=
  match findBucketAtomic s.buckets item.key with
  | some b =>
    { s with
      heap := heapPush ⟨item.«until», item.key⟩ s.heap
      buckets := s.buckets.modify b (·.evict item.key) }
  | none => s

/-- `handle_eviction` after the pop: the closure lets the endpoint back only when its current
`evicted_until` is the popped deadline, and clears the deadline exactly then. -/
def handleEviction (s : EndpointSet K T) (top : UnevictEntry K) : EndpointSet K T :=
  match findBucketAtomic s.buckets top.key with
  | some b =>
    let edit := fun ep : EndpointWithInfo T Nat => s.evictedUntil ep.info == some top.«until»
    let cleared := match s.buckets[b]?.bind (·.rejected.get top.key) with
      | some ep => if edit ep then Function.update s.evictedUntil ep.info none else s.evictedUntil
      | none => s.evictedUntil
    { s with buckets := s.buckets.modify b (·.unevict top.key edit), evictedUntil := cleared }
  | none => s

/-- The worker receives one of the events in flight; each is sent from its own spawned task, so
they arrive in any order. -/
def recvEvict (s : EndpointSet K T) (i : Nat) : Option (EndpointSet K T) :=
  s.inFlight[i]?.map fun item => { s with inFlight := s.inFlight.eraseIdx i }.handleRecvEvict item

def fireTimer (s : EndpointSet K T) : Option (EndpointSet K T) :=
  match s.heap with
  | top :: rest => if top.«until» ≤ s.now then some ({ s with heap := rest }.handleEviction top) else none
  | [] => none

inductive Action (K T : Type) where
  | insertKey (key : K) (ep : T) (bucket : Nat)
  | remove (key : K)
  | rebucket (ranker : T → Option Nat)
  | evict (key : K) (time : Nat)
  | startRequest (key : K)
  | finishRequest (handle : Nat) (evictionTime : Option Nat)
  | recvEvict (event : Nat)
  | fireTimer
  | advance (d : Nat)

def step (s : EndpointSet K T) : Action K T → Option (EndpointSet K T)
  | .insertKey key ep bucket => some (s.insertKey key ep bucket)
  | .remove key => some (s.remove key)
  | .rebucket ranker => some (s.rebucket ranker)
  | .evict key time => some (s.evict key time)
  | .startRequest key => s.startRequest key
  | .finishRequest i evictionTime => s.finishRequest i evictionTime
  | .recvEvict i => s.recvEvict i
  | .fireTimer => s.fireTimer
  | .advance d => some { s with now := s.now + d }

def run (s : EndpointSet K T) : List (Action K T) → Option (EndpointSet K T)
  | [] => some s
  | a :: acts => (s.step a).bind (·.run acts)

section Steps

variable {s s' : EndpointSet K T}

@[simp] lemma mem_heapPush {e x : UnevictEntry K} {heap : List (UnevictEntry K)} :
    x ∈ heapPush e heap ↔ x = e ∨ x ∈ heap :=
  List.mem_orderedInsert _

lemma forall_mem_modify {α : Type*} {P : α → Prop} {l : List α} {i : Nat} {f : α → α}
    (hl : ∀ a ∈ l, P a) (hf : ∀ a ∈ l, P a → P (f a)) : ∀ a ∈ l.modify i f, P a := by
  intro a ha
  obtain ⟨j, hj, rfl⟩ := List.getElem_of_mem ha
  have hj' : j < l.length := by simpa using hj
  rw [List.getElem_modify]
  split_ifs
  · exact hf _ (List.getElem_mem hj') (hl _ (List.getElem_mem hj'))
  · exact hl _ (List.getElem_mem hj')

lemma mem_of_findBucket {key : K} {g : EndpointGroup K T Nat} (h : findBucket s.buckets key = some g) :
    g ∈ s.buckets :=
  List.mem_of_find?_eq_some h

lemma startRequest_eq_some {key : K} (h : s.startRequest key = some s') :
    ∃ info, s' = { s with handles := s.handles ++ [⟨key, info⟩] } := by
  unfold startRequest at h
  split at h
  · cases h
    exact ⟨_, rfl⟩
  · cases h

omit [LinearOrder K] in
lemma finishRequest_eq_some {i : Nat} {evictionTime : Option Nat} (h : s.finishRequest i evictionTime = some s') :
    ∃ hd, s.handles[i]? = some hd ∧
      (evictionTime = none → s' = { s with handles := s.handles.eraseIdx i }) ∧
      ∀ d, evictionTime = some d →
        s' = { s with handles := s.handles.eraseIdx i }.casEvictedUntil hd.info hd.key (s.now + d) := by
  unfold finishRequest at h
  obtain ⟨hd, hi, rfl⟩ := Option.map_eq_some_iff.1 h
  refine ⟨hd, hi, ?_, ?_⟩
  · rintro rfl
    rfl
  · rintro d rfl
    rfl

lemma recvEvict_eq_some {i : Nat} (h : s.recvEvict i = some s') :
    ∃ item, s.inFlight[i]? = some item ∧ s' = { s with inFlight := s.inFlight.eraseIdx i }.handleRecvEvict item := by
  unfold recvEvict at h
  obtain ⟨item, hi, rfl⟩ := Option.map_eq_some_iff.1 h
  exact ⟨item, hi, rfl⟩

lemma fireTimer_eq_some (h : s.fireTimer = some s') :
    ∃ top rest, s.heap = top :: rest ∧ top.«until» ≤ s.now ∧ s' = { s with heap := rest }.handleEviction top := by
  unfold fireTimer at h
  split at h
  · next top rest hheap =>
    split_ifs at h with hle
    cases h
    exact ⟨top, rest, hheap, hle, rfl⟩
  · cases h

end Steps

/-! ### A re-added endpoint evicted for good

`handle_recv_evict` evicts whatever entry holds the event's key. When the key was re-added after the
compare-and-swap, that entry has a fresh `EndpointInfo` whose `evicted_until` is `None`, so when the
timer fires the deadline check of `handle_eviction` fails and the endpoint is left rejected with no
event or timer of its own. -/

section Stranded

variable {key : K} {s s' : EndpointSet K T}

/-- A key nothing in the eviction machinery will bring back: it is in no active pool, and neither an
`Evict` event nor an uneviction timer for it is pending. -/
structure Stranded (key : K) (s : EndpointSet K T) : Prop where
  not_active : ∀ g ∈ s.buckets, key ∉ g.active.keys
  no_event : ∀ e ∈ s.inFlight, e.key ≠ key
  no_timer : ∀ e ∈ s.heap, e.key ≠ key

/-- The calls that leave a key alone: anything but an `insert_key` of it, and requests that
finish without starting an eviction. -/
def LeavesAlone (key : K) : Action K T → Prop
  | .insertKey k _ _ => k ≠ key
  | .finishRequest _ evictionTime => evictionTime = none
  | _ => True

instance (key : K) : DecidablePred (LeavesAlone (T := T) key)
  | .insertKey k _ _ => inferInstanceAs (Decidable (k ≠ key))
  | .finishRequest _ evictionTime => inferInstanceAs (Decidable (evictionTime = none))
  | .remove _ | .rebucket _ | .evict _ _ | .startRequest _ | .recvEvict _ | .fireTimer | .advance _ =>
    isTrue trivial

omit [LinearOrder K] in
lemma Stranded.modify (h : Stranded key s) {b : Nat} {f : EndpointGroup K T Nat → EndpointGroup K T Nat}
    (hf : ∀ g, key ∉ g.active.keys → key ∉ (f g).active.keys) :
    ∀ g ∈ s.buckets.modify b f, key ∉ g.active.keys :=
  forall_mem_modify h.not_active fun g _ => hf g

lemma Stranded.insertKey (h : Stranded key s) {k : K} (hk : k ≠ key) (ep : T) (bucket : Nat) :
    Stranded key (s.insertKey k ep bucket) := by
  unfold EndpointSet.insertKey event
  dsimp only
  split_ifs
  · refine ⟨h.modify fun g hg hkey => ?_, h.no_event, h.no_timer⟩
    rw [EndpointGroup.add_active, IndexMap.mem_keys_insert] at hkey
    rcases hkey with rfl | hkey
    · exact hk rfl
    · exact hg hkey
  · exact ⟨h.not_active, h.no_event, h.no_timer⟩

lemma Stranded.remove (h : Stranded key s) (k : K) : Stranded key (s.remove k) := by
  unfold EndpointSet.remove event
  dsimp only
  split
  · refine ⟨h.modify fun g hg hkey => hg ?_, h.no_event, h.no_timer⟩
    rw [EndpointGroup.remove_active] at hkey
    exact (IndexMap.mem_keys_swapRemove.1 hkey).2
  · exact h

lemma mem_keys_redistribute {ranker : T → Option Nat} {n : Nat} {pools : List (Pool K T Nat)} {x : K} :
    ∀ m ∈ redistribute ranker n pools, x ∈ m.keys → ∃ p ∈ pools, x ∈ p.keys := by
  unfold redistribute
  -- the invariant of both folds: every key placed so far comes from a pool already read
  refine List.foldlRecOn (motive := fun into : List (Pool K T Nat) => ∀ m ∈ into, x ∈ m.keys → ∃ p ∈ pools, x ∈ p.keys) _ _ ?_
    fun into hinto p hp => List.foldlRecOn (motive := fun into : List (Pool K T Nat) => ∀ m ∈ into, x ∈ m.keys → ∃ p ∈ pools, x ∈ p.keys)
      _ _ hinto fun into hinto e he => ?_
  · intro m hm hx
    obtain ⟨-, rfl⟩ := List.mem_replicate.1 hm
    simp [IndexMap.empty, IndexMap.keys] at hx
  · split
    · split_ifs
      · refine forall_mem_modify hinto fun m _ hm hx => ?_
        rcases IndexMap.mem_keys_insert.1 hx with rfl | hx
        · exact ⟨p, hp, List.mem_map_of_mem (f := Prod.fst) he⟩
        · exact hm hx
      · exact hinto
    · exact hinto

lemma Stranded.rebucket (h : Stranded key s) (ranker : T → Option Nat) : Stranded key (s.rebucket ranker) := by
  refine ⟨fun g hg hkey => ?_, h.no_event, h.no_timer⟩
  obtain ⟨⟨a, r⟩, hp, rfl⟩ := List.mem_map.1 hg
  -- the active pool of a new group is built from the old active pools only
  obtain ⟨p, hp', hx⟩ := mem_keys_redistribute a (List.of_mem_zip hp).1 hkey
  obtain ⟨g₀, hg₀, rfl⟩ := List.mem_map.1 hp'
  exact h.not_active g₀ hg₀ hx

omit [LinearOrder K] in
lemma Stranded.casEvictedUntil (h : Stranded key s) {k : K} (hk : k ≠ key) (info time : Nat) :
    Stranded key (s.casEvictedUntil info k time) := by
  unfold EndpointSet.casEvictedUntil
  split_ifs
  · refine ⟨h.not_active, fun e he => ?_, h.no_timer⟩
    rcases List.mem_append.1 he with he | he
    · exact h.no_event e he
    · rw [List.mem_singleton.1 he]
      exact hk
  · exact h

lemma Stranded.evict (h : Stranded key s) (k : K) (time : Nat) : Stranded key (s.evict k time) := by
  unfold EndpointSet.evict
  split
  · next cur hcur =>
    -- the compare-and-swap is only made for a key the found bucket holds as active
    obtain ⟨g, hg, hget⟩ := Option.bind_eq_some_iff.1 hcur
    have hk : k ≠ key := by
      rintro rfl
      exact h.not_active g (mem_of_findBucket hg) (IndexMap.mem_keys_of_get_eq_some hget)
    exact h.casEvictedUntil hk _ _
  · exact h

lemma Stranded.handleRecvEvict (h : Stranded key s) {item : EvictionEvent K} (hk : item.key ≠ key) :
    Stranded key (s.handleRecvEvict item) := by
  unfold EndpointSet.handleRecvEvict
  split
  · refine ⟨h.modify fun g hg hkey => hg ?_, h.no_event, fun e he => ?_⟩
    · rw [EndpointGroup.evict_active] at hkey
      exact (IndexMap.mem_keys_swapRemove.1 hkey).2
    · rcases mem_heapPush.1 he with rfl | he
      · exact hk
      · exact h.no_timer e he
  · exact h

lemma Stranded.handleEviction (h : Stranded key s) {top : UnevictEntry K} (hk : top.key ≠ key) :
    Stranded key (s.handleEviction top) := by
  unfold EndpointSet.handleEviction
  split
  · refine ⟨h.modify fun g hg hkey => ?_, h.no_event, h.no_timer⟩
    rcases EndpointGroup.mem_active_keys_of_unevict hkey with rfl | hkey
    · exact hk rfl
    · exact hg hkey
  · exact h

lemma Stranded.step (h : Stranded key s) {a : Action K T} (ha : LeavesAlone key a) (hs : s.step a = some s') :
    Stranded key s' := by
  cases a with
  | insertKey k ep bucket =>
    cases hs
    exact h.insertKey ha ep bucket
  | remove k =>
    cases hs
    exact h.remove k
  | rebucket ranker =>
    cases hs
    exact h.rebucket ranker
  | evict k time =>
    cases hs
    exact h.evict k time
  | startRequest k =>
    obtain ⟨info, rfl⟩ := startRequest_eq_some hs
    exact ⟨h.not_active, h.no_event, h.no_timer⟩
  | finishRequest i evictionTime =>
    -- the request finishes without an eviction
    obtain ⟨hd, -, hnone, -⟩ := finishRequest_eq_some hs
    rw [hnone ha]
    exact ⟨h.not_active, h.no_event, h.no_timer⟩
  | recvEvict i =>
    obtain ⟨item, hi, rfl⟩ := recvEvict_eq_some hs
    have h' : Stranded key { s with inFlight := s.inFlight.eraseIdx i } :=
      ⟨h.not_active, fun e he => h.no_event e (List.mem_of_mem_eraseIdx he), h.no_timer⟩
    exact h'.handleRecvEvict (h.no_event item (List.mem_of_getElem? hi))
  | fireTimer =>
    obtain ⟨top, rest, hheap, -, rfl⟩ := fireTimer_eq_some hs
    have h' : Stranded key { s with heap := rest } :=
      ⟨h.not_active, h.no_event, fun e he => h.no_timer e (by rw [hheap]; exact List.mem_cons_of_mem _ he)⟩
    exact h'.handleEviction (h.no_timer top (by rw [hheap]; exact List.mem_cons_self))
  | advance d =>
    cases hs
    exact ⟨h.not_active, h.no_event, h.no_timer⟩

lemma Stranded.run (h : Stranded key s) {acts : List (Action K T)} (hacts : ∀ a ∈ acts, LeavesAlone key a)
    (hs : s.run acts = some s') : Stranded key s' := by
  induction acts generalizing s with
  | nil =>
    cases hs
    exact h
  | cons a acts ih =>
    obtain ⟨s₁, h₁, hs⟩ := Option.bind_eq_some_iff.1 hs
    exact ih (h.step (hacts a List.mem_cons_self) h₁) (fun b hb => hacts b (List.mem_cons_of_mem _ hb)) hs

end Stranded

theorem reinserted_endpoint_stays_evicted (acts : List (Action Nat Unit)) (hacts : ∀ a ∈ acts, LeavesAlone 0 a) :
    ∃ s, (newEmpty 1 : EndpointSet Nat Unit).run
        [.insertKey 0 () 0, .evict 0 5, .insertKey 0 () 0, .recvEvict 0, .advance 5, .fireTimer] = some s ∧
      (∃ g ∈ s.buckets, 0 ∈ g.rejected.keys) ∧ 5 ≤ s.now ∧
      ∀ s', s.run acts = some s' → ∀ g ∈ s'.buckets, 0 ∉ g.active.keys := by
  refine ⟨_, rfl, by decide, by decide, fun s' hs' => ?_⟩
  -- the re-added key is rejected with no event and no timer of its own
  refine (Stranded.run ⟨?_, ?_, ?_⟩ hacts hs').not_active <;> decide

theorem reinserted_endpoint_stays_evicted_through_timers :
    (∀ a ∈ [Action.advance 10, .fireTimer, .evict 0 20, .advance 20, .fireTimer], LeavesAlone (T := Unit) 0 a) ∧
    ∃ s, (newEmpty 1 : EndpointSet Nat Unit).run
        [.insertKey 0 () 0, .evict 0 5, .insertKey 0 () 0, .recvEvict 0, .advance 5, .fireTimer] = some s ∧
      (∃ g ∈ s.buckets, 0 ∈ g.rejected.keys) ∧ 5 ≤ s.now ∧
      ∀ s', s.run [.advance 10, .fireTimer, .evict 0 20, .advance 20, .fireTimer] = some s' →
        ∀ g ∈ s'.buckets, 0 ∉ g.active.keys :=
  ⟨by decide, reinserted_endpoint_stays_evicted _ (by decide)⟩

end EndpointSet

end AgentGateway.LoadBalancer
