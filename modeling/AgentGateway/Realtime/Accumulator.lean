import AgentGateway.Realtime.Frames

/-! `WsFrameAccumulator` of `parse/websocket.rs` over bytes, with the frame decoder as a
parameter. -/

namespace AgentGateway.Realtime.Accumulator

open AgentGateway.Realtime.Frames (Opcode WsCompletedFrame)

structure FrameInfo where
  fin : Bool
  deriving DecidableEq

inductive WebsocketFrameEvent where
  | start (frameInfo : FrameInfo) (originalOpcode : Opcode)
  | payloadChunk (originalOpcode : Opcode)
  | «end» (frameInfo : FrameInfo) (originalOpcode : Opcode)
  deriving DecidableEq

structure AddDataResult where
  consumedBytes : Nat
  event : Option WebsocketFrameEvent

/-- A `WebsocketFrameDecoder`: `add_data`, which consumes at most the bytes it is given, and a
measure of its state that a call consuming nothing while reporting an event lowers. -/
structure FrameDecoder (δ ε : Type) where
  addData : δ → List UInt8 → δ × Except ε (AddDataResult × List UInt8)
  size : δ → Nat
  consumed_le : ∀ {d buf d' r t}, addData d buf = (d', .ok (r, t)) → r.consumedBytes ≤ buf.length
  size_lt : ∀ {d buf d' r t}, addData d buf = (d', .ok (r, t)) → r.consumedBytes = 0 → r.event.isSome →
    size d' < size d

structure WsFrameAccumulator (δ : Type) where
  decoder : δ
  pending : List UInt8
  frameRaw : List UInt8
  framePayload : List UInt8

variable {δ ε : Type}

namespace WsFrameAccumulator

def new (decoder : δ) : WsFrameAccumulator δ := ⟨decoder, [], [], []⟩

def push (acc : WsFrameAccumulator δ) (data : List UInt8) : WsFrameAccumulator δ :=
  { acc with pending := acc.pending ++ data }

@[simp] lemma push_frameRaw (acc : WsFrameAccumulator δ) (data : List UInt8) :
    (acc.push data).frameRaw = acc.frameRaw := rfl

@[simp] lemma push_pending (acc : WsFrameAccumulator δ) (data : List UInt8) :
    (acc.push data).pending = acc.pending ++ data := rfl

/-- What `drain_frames` does with the event of a call, the bytes it consumed already moved to
`frame_raw` and `chunk` their unmasked copy. -/
def absorb (event : Option WebsocketFrameEvent) (chunk : List UInt8) (acc : WsFrameAccumulator δ) :
    List (WsCompletedFrame (List UInt8)) × WsFrameAccumulator δ :=
  match event with
  | some (.payloadChunk .text) => ([], { acc with framePayload := acc.framePayload ++ chunk })
  | some (.«end» info .text) =>
    if info.fin then ([.text acc.frameRaw (acc.framePayload ++ chunk)], { acc with frameRaw := [], framePayload := [] })
    else ([.other acc.frameRaw], { acc with frameRaw := [], framePayload := [] })
  | some (.«end» _ _) => ([.other acc.frameRaw], { acc with frameRaw := [], framePayload := [] })
  | _ => ([], acc)

@[simp] lemma absorb_pending (event : Option WebsocketFrameEvent) (chunk : List UInt8) (acc : WsFrameAccumulator δ) :
    (absorb event chunk acc).2.pending = acc.pending := by
  unfold absorb
  split <;> (try split) <;> rfl

@[simp] lemma absorb_decoder (event : Option WebsocketFrameEvent) (chunk : List UInt8) (acc : WsFrameAccumulator δ) :
    (absorb event chunk acc).2.decoder = acc.decoder := by
  unfold absorb
  split <;> (try split) <;> rfl

-- the linter does not see the use of `h` in the termination proof
set_option linter.unusedVariables false in
/-- `drain_frames`: decode what is pending until the decoder needs more bytes or reports a
protocol error, which forwards the pending bytes as one opaque frame and clears the frame in
progress. -/
def drainFrames (D : FrameDecoder δ ε) (acc : WsFrameAccumulator δ) :
    List (WsCompletedFrame (List UInt8)) × WsFrameAccumulator δ :=
  match h : D.addData acc.decoder acc.pending with
  | (d', .error _) =>
    if acc.pending.isEmpty then ([], { acc with decoder := d' })
    else ([.other acc.pending], { acc with decoder := d', pending := [], frameRaw := [], framePayload := [] })
  | (d', .ok (ret, copy)) =>
    if ret.consumedBytes = 0 ∧ ret.event.isNone then ([], { acc with decoder := d' })
    else
      let acc' := absorb ret.event (copy.take ret.consumedBytes)
        { acc with decoder := d', pending := acc.pending.drop ret.consumedBytes,
                   frameRaw := acc.frameRaw ++ acc.pending.take ret.consumedBytes }
      let rest := drainFrames D acc'.2
      (acc'.1 ++ rest.1, rest.2)
termination_by (acc.pending.length, D.size acc.decoder)
decreasing_by
  simp only [absorb_pending, absorb_decoder, List.length_drop]
  have hle := D.consumed_le h
  rcases Nat.eq_zero_or_pos ret.consumedBytes with h0 | hpos
  · -- nothing consumed: the event lowers the decoder's measure
    have hev : ret.event.isSome := by
      rename_i hne
      cases hev : ret.event <;> simp_all
    rw [h0, Nat.sub_zero]
    exact Prod.Lex.right _ (D.size_lt h h0 hev)
  · exact Prod.Lex.left _ _ (by omega)

end WsFrameAccumulator

open WsFrameAccumulator

/-! ### Where the bytes go -/

def rawBytes : WsCompletedFrame (List UInt8) → List UInt8
  | .text raw _ => raw
  | .other raw => raw

def raws (frames : List (WsCompletedFrame (List UInt8))) : List UInt8 := frames.flatMap rawBytes

@[simp] lemma raws_nil : raws [] = [] := rfl

@[simp] lemma raws_append (f g : List (WsCompletedFrame (List UInt8))) : raws (f ++ g) = raws f ++ raws g :=
  List.flatMap_append

lemma absorb_raws (event : Option WebsocketFrameEvent) (chunk : List UInt8) (acc : WsFrameAccumulator δ) :
    raws (absorb event chunk acc).1 ++ (absorb event chunk acc).2.frameRaw = acc.frameRaw := by
  unfold absorb
  split <;> (try split) <;> simp [raws, rawBytes]

lemma absorb_bytes (event : Option WebsocketFrameEvent) (chunk : List UInt8) (acc : WsFrameAccumulator δ) :
    raws (absorb event chunk acc).1 ++ ((absorb event chunk acc).2.frameRaw ++ (absorb event chunk acc).2.pending) =
      acc.frameRaw ++ acc.pending := by
  rw [← List.append_assoc, absorb_raws, absorb_pending]

section Drain

variable {D : FrameDecoder δ ε} {acc : WsFrameAccumulator δ} {d' : δ}

lemma drainFrames_of_error {e : ε} (h : D.addData acc.decoder acc.pending = (d', .error e)) :
    drainFrames D acc = if acc.pending.isEmpty then ([], { acc with decoder := d' })
      else ([.other acc.pending], { acc with decoder := d', pending := [], frameRaw := [], framePayload := [] }) := by
  rw [drainFrames]
  split <;> rename_i hd <;> rw [h] at hd <;> cases hd
  rfl

lemma drainFrames_of_wait {r : AddDataResult} {t : List UInt8} (h : D.addData acc.decoder acc.pending = (d', .ok (r, t)))
    (hw : r.consumedBytes = 0 ∧ r.event.isNone) : drainFrames D acc = ([], { acc with decoder := d' }) := by
  rw [drainFrames]
  split <;> rename_i hd <;> rw [h] at hd <;> cases hd
  rw [if_pos hw]

lemma drainFrames_of_step {r : AddDataResult} {t : List UInt8} (h : D.addData acc.decoder acc.pending = (d', .ok (r, t)))
    (hw : ¬ (r.consumedBytes = 0 ∧ r.event.isNone)) :
    drainFrames D acc =
      let acc' := absorb r.event (t.take r.consumedBytes)
        { acc with decoder := d', pending := acc.pending.drop r.consumedBytes,
                   frameRaw := acc.frameRaw ++ acc.pending.take r.consumedBytes }
      (acc'.1 ++ (drainFrames D acc'.2).1, (drainFrames D acc'.2).2) := by
  rw [drainFrames]
  split <;> rename_i hd <;> rw [h] at hd <;> cases hd
  rw [if_neg hw]

/-- Whatever the decoder, a drain only forwards or keeps the bytes it had, in order: those of the
frame in progress and those pending. -/
theorem drainFrames_sublist (D : FrameDecoder δ ε) (acc : WsFrameAccumulator δ) :
    List.Sublist (raws (drainFrames D acc).1 ++ (drainFrames D acc).2.frameRaw ++ (drainFrames D acc).2.pending)
      (acc.frameRaw ++ acc.pending) := by
  induction acc using drainFrames.induct D with
  | case1 acc d' e h hempty =>
    -- an error with nothing pending changes nothing
    rw [drainFrames_of_error h, if_pos hempty]
    simp
  | case2 acc d' e h hne =>
    -- an error forwards what is pending and drops the frame in progress
    rw [drainFrames_of_error h, if_neg hne]
    simp only [raws, rawBytes, List.flatMap_cons, List.flatMap_nil, List.append_nil]
    exact List.sublist_append_right acc.frameRaw acc.pending
  | case3 acc d' r t h hw =>
    rw [drainFrames_of_wait h hw]
    simp
  | case4 acc d' r t h hw acc' ih =>
    rw [drainFrames_of_step h hw]
    show List.Sublist (raws (acc'.1 ++ (drainFrames D acc'.2).1) ++ (drainFrames D acc'.2).2.frameRaw ++
      (drainFrames D acc'.2).2.pending) (acc.frameRaw ++ acc.pending)
    -- the call moved the bytes it consumed from `pending` to the end of `frame_raw`
    have hbytes : acc.frameRaw ++ acc.pending = raws acc'.1 ++ (acc'.2.frameRaw ++ acc'.2.pending) := by
      rw [absorb_bytes]
      simp
    rw [hbytes, raws_append]
    simpa only [List.append_assoc] using ih.append_left (raws acc'.1)

/-! ### Protocol errors between frames

A protocol error forwards what is pending and clears `frame_raw`, so the bytes of a frame whose
start the decoder had consumed before the error are lost. A decoder that reports errors only at a
frame boundary, before it consumed any byte of the next frame, loses none. -/

def endsFrame : Option WebsocketFrameEvent → Bool
  | some (.«end» _ _) => true
  | _ => false

lemma absorb_frameRaw (event : Option WebsocketFrameEvent) (chunk : List UInt8) (acc : WsFrameAccumulator δ) :
    (absorb event chunk acc).2.frameRaw = if endsFrame event then [] else acc.frameRaw := by
  obtain _ | (_ | op | ⟨⟨fin⟩, op⟩) := event <;> (try cases op) <;> (try cases fin) <;> rfl

/-- The decoder reports protocol errors only at a frame boundary (`boundary` on its state): a call
that consumes bytes without ending a frame leaves it inside one, and one that consumes nothing
without ending a frame reaches a boundary only from one. -/
structure ErrorsAtBoundary (D : FrameDecoder δ ε) (boundary : δ → Prop) : Prop where
  error : ∀ {d buf d' e}, D.addData d buf = (d', .error e) → boundary d
  busy : ∀ {d buf d' r t}, D.addData d buf = (d', .ok (r, t)) → r.consumedBytes ≠ 0 →
    endsFrame r.event = false → ¬ boundary d'
  stay : ∀ {d buf d' r t}, D.addData d buf = (d', .ok (r, t)) → r.consumedBytes = 0 →
    endsFrame r.event = false → boundary d' → boundary d

def FrameInv (boundary : δ → Prop) (acc : WsFrameAccumulator δ) : Prop :=
  boundary acc.decoder → acc.frameRaw = []

/-- A drain by a decoder that errs only at a frame boundary keeps every byte, in order, and keeps
the invariant. -/
theorem drainFrames_conserves {boundary : δ → Prop} (hD : ErrorsAtBoundary D boundary) (acc : WsFrameAccumulator δ)
    (hinv : FrameInv boundary acc) :
    raws (drainFrames D acc).1 ++ (drainFrames D acc).2.frameRaw ++ (drainFrames D acc).2.pending =
      acc.frameRaw ++ acc.pending ∧ FrameInv boundary (drainFrames D acc).2 := by
  induction acc using drainFrames.induct D with
  | case1 acc d' e h hempty =>
    rw [drainFrames_of_error h, if_pos hempty]
    exact ⟨by simp, fun _ => hinv (hD.error h)⟩
  | case2 acc d' e h hne =>
    -- the error comes at a boundary, where `frame_raw` is empty, so nothing is cleared
    rw [drainFrames_of_error h, if_neg hne]
    refine ⟨?_, fun _ => rfl⟩
    simp [raws, rawBytes, hinv (hD.error h)]
  | case3 acc d' r t h hw =>
    rw [drainFrames_of_wait h hw]
    have hend : endsFrame r.event = false := by
      rw [Option.isNone_iff_eq_none.mp hw.2]
      rfl
    exact ⟨by simp, fun hb => hinv (hD.stay h hw.1 hend hb)⟩
  | case4 acc d' r t h hw acc' ih =>
    rw [drainFrames_of_step h hw]
    have hbytes : acc.frameRaw ++ acc.pending = raws acc'.1 ++ (acc'.2.frameRaw ++ acc'.2.pending) := by
      rw [absorb_bytes]
      simp
    -- the call either ends the frame, or leaves the decoder inside it, or consumed nothing
    have hinv' : FrameInv boundary acc'.2 := by
      intro hb
      simp only [acc', absorb_frameRaw]
      split
      · rfl
      · rename_i hend
        simp only [Bool.not_eq_true] at hend
        by_cases hc : r.consumedBytes = 0
        · rw [hc, List.take_zero, List.append_nil]
          exact hinv (hD.stay h hc hend (by simpa [acc'] using hb))
        · exact absurd (by simpa [acc'] using hb) (hD.busy h hc hend)
    obtain ⟨heq, hinv''⟩ := ih hinv'
    refine ⟨?_, hinv''⟩
    show raws (acc'.1 ++ (drainFrames D acc'.2).1) ++ (drainFrames D acc'.2).2.frameRaw ++
      (drainFrames D acc'.2).2.pending = acc.frameRaw ++ acc.pending
    rw [hbytes, raws_append, ← heq]
    simp only [List.append_assoc]

end Drain

/-! ### Runs over the reads of a connection -/

/-- `Parser::poll_read`'s use of the accumulator over successive reads: push each read and drain,
collecting the completed frames. -/
def pushDrain (D : FrameDecoder δ ε) : WsFrameAccumulator δ → List (List UInt8) →
    List (WsCompletedFrame (List UInt8)) × WsFrameAccumulator δ
  | acc, [] => ([], acc)
  | acc, data :: reads =>
    let r := drainFrames D (acc.push data)
    let r' := pushDrain D r.2 reads
    (r.1 ++ r'.1, r'.2)

section Run

variable (D : FrameDecoder δ ε)

theorem pushDrain_sublist : ∀ (acc : WsFrameAccumulator δ) (reads : List (List UInt8)),
    List.Sublist (raws (pushDrain D acc reads).1 ++ (pushDrain D acc reads).2.frameRaw ++
      (pushDrain D acc reads).2.pending) (acc.frameRaw ++ acc.pending ++ reads.flatten)
  | acc, [] => by simp [pushDrain]
  | acc, data :: reads => by
    -- the drain after this read, then the rest of the run from where it left the accumulator
    have hd := drainFrames_sublist D (acc.push data)
    have hr := pushDrain_sublist (drainFrames D (acc.push data)).2 reads
    simp only [pushDrain, raws_append, List.flatten_cons]
    generalize drainFrames D (acc.push data) = R at hd hr ⊢
    generalize pushDrain D R.2 reads = P at hr ⊢
    rw [push_frameRaw, push_pending] at hd
    simp only [List.append_assoc] at hd hr ⊢
    refine (hr.append_left (raws R.1)).trans ?_
    rw [← List.append_assoc R.2.frameRaw, ← List.append_assoc (raws R.1)]
    simpa only [List.append_assoc] using hd.append_right reads.flatten

theorem pushDrain_conserves {boundary : δ → Prop} (hD : ErrorsAtBoundary D boundary) :
    ∀ (acc : WsFrameAccumulator δ) (reads : List (List UInt8)), FrameInv boundary acc →
      raws (pushDrain D acc reads).1 ++ (pushDrain D acc reads).2.frameRaw ++ (pushDrain D acc reads).2.pending =
        acc.frameRaw ++ acc.pending ++ reads.flatten
  | acc, [], _ => by simp [pushDrain]
  | acc, data :: reads, hinv => by
    -- pushing keeps the invariant, which reads only the decoder and `frame_raw`
    obtain ⟨hd, hinv'⟩ := drainFrames_conserves hD (acc.push data) hinv
    have hr := pushDrain_conserves hD (drainFrames D (acc.push data)).2 reads hinv'
    simp only [pushDrain, raws_append, List.flatten_cons]
    generalize drainFrames D (acc.push data) = R at hd hr ⊢
    generalize pushDrain D R.2 reads = P at hr ⊢
    rw [push_frameRaw, push_pending] at hd
    simp only [List.append_assoc] at hd hr ⊢
    rw [hr, ← List.append_assoc R.2.frameRaw, ← List.append_assoc (raws R.1), hd]
    simp only [List.append_assoc]

end Run

/-! ### Streams of frames

A decoder reads a frame when every call it makes on bytes that continue the frame stays within the
frame, gives the unmasked bytes of its text payload position by position, and ends the frame, with
its `fin` bit and its original opcode, once the whole frame was consumed; it never fails on them, and
waits only while the rest of the frame has not arrived. Over a stream of frames so read, cut into
reads in any way, the accumulator completes exactly the frames `Frames.drainFrames` gives. -/

section Stream

open AgentGateway.Realtime.Frames (Frame OpcodeTracking completeFrame drainStep)
open Library.Transducer (run run_cons run_append)

def textBytes : Option WebsocketFrameEvent → List UInt8 → List UInt8
  | some (.payloadChunk .text), chunk => chunk
  | some (.«end» ⟨true⟩ .text), chunk => chunk
  | _, _ => []

/-- The states the decoder reaches from `d`, with the count of the bytes of `f` consumed, by calls on
bytes that continue `f` and do not end it. -/
inductive Reading (D : FrameDecoder δ ε) (f : Frame (List UInt8)) (d : δ) : Nat → δ → Prop
  | start : Reading D f d 0 d
  | step {p s buf rest s' r t} : Reading D f d p s → buf <+: f.raw.drop p ++ rest →
      D.addData s buf = (s', .ok (r, t)) → endsFrame r.event = false → Reading D f d (p + r.consumedBytes) s'

/-- The decoder reads `f` from `d` to `d'`, reporting `o` as its original opcode and `img` as the
text payload byte, if any, of each of its positions. -/
structure ReadsFrame (D : FrameDecoder δ ε) (f : Frame (List UInt8)) (d : δ) (o : Opcode)
    (img : List (Option UInt8)) (d' : δ) : Prop where
  length_pos : 0 < f.raw.length
  length_img : img.length = f.raw.length
  payload : o = .text → f.fin = true → img.filterMap id = f.payload
  call : ∀ {p s buf rest}, Reading D f d p s → buf <+: f.raw.drop p ++ rest →
    ∃ s' r t, D.addData s buf = (s', .ok (r, t)) ∧ p + r.consumedBytes ≤ f.raw.length ∧
      textBytes r.event (t.take r.consumedBytes) = ((img.drop p).take r.consumedBytes).filterMap id ∧
      (endsFrame r.event = true →
        r.event = some (.«end» ⟨f.fin⟩ o) ∧ p + r.consumedBytes = f.raw.length ∧ s' = d') ∧
      (f.raw.length - p ≤ buf.length → r.consumedBytes ≠ 0 ∨ r.event.isSome)

/-- The decoder reads the frames `fs` one after another from `d`, the fragmented message in progress
being `msg`, and then waits on an empty buffer. -/
inductive ReadsFrames (D : FrameDecoder δ ε) (T : OpcodeTracking) : T.State → δ → List (Frame (List UInt8)) → Prop
  | nil {msg d} : D.addData d [] = (d, .ok (⟨0, none⟩, [])) → ReadsFrames D T msg d []
  | cons {msg d d' f fs img} : ReadsFrame D f d (T.original msg f.opcode) img d' →
      ReadsFrames D T (T.next msg f.opcode f.fin) d' fs → ReadsFrames D T msg d (f :: fs)

lemma absorb_of_endsFrame_false {event : Option WebsocketFrameEvent} (h : endsFrame event = false)
    (chunk : List UInt8) (acc : WsFrameAccumulator δ) :
    absorb event chunk acc = ([], { acc with framePayload := acc.framePayload ++ textBytes event chunk }) := by
  obtain _ | (_ | op | _) := event
  · simp [absorb, textBytes]
  · simp [absorb, textBytes]
  · cases op <;> simp [absorb, textBytes]
  · simp [endsFrame] at h

lemma absorb_end (info : FrameInfo) (o : Opcode) (chunk : List UInt8) (acc : WsFrameAccumulator δ) :
    absorb (some (.«end» info o)) chunk acc =
      ([if o = .text ∧ info.fin = true then .text acc.frameRaw (acc.framePayload ++ chunk) else .other acc.frameRaw],
        { acc with frameRaw := [], framePayload := [] }) := by
  obtain ⟨fin⟩ := info
  cases o <;> cases fin <;> simp [absorb]

lemma textBytes_end (fin : Bool) (o : Opcode) (chunk : List UInt8) :
    textBytes (some (.«end» ⟨fin⟩ o)) chunk = if o = .text ∧ fin = true then chunk else [] := by
  cases o <;> cases fin <;> simp [textBytes]

variable {D : FrameDecoder δ ε} {T : OpcodeTracking}

/-- The accumulator is `p` bytes into the first of the frames `fs` still to complete, the message
in progress being `msg`; what is pending, followed by the bytes `more` still to be pushed, is the
rest of the stream. -/
def Within (D : FrameDecoder δ ε) (T : OpcodeTracking) (msg : T.State) : List (Frame (List UInt8)) → Nat → List UInt8 →
    WsFrameAccumulator δ → Prop
  | [], _, more, acc => ReadsFrames D T msg acc.decoder [] ∧ acc.frameRaw = [] ∧ acc.pending ++ more = []
  | f :: fs, p, more, acc => ∃ d d' img, ReadsFrame D f d (T.original msg f.opcode) img d' ∧
      ReadsFrames D T (T.next msg f.opcode f.fin) d' fs ∧ Reading D f d p acc.decoder ∧ acc.frameRaw = f.raw.take p ∧
      acc.framePayload = (img.take p).filterMap id ∧ acc.pending ++ more = f.raw.drop p ++ (fs.map Frame.raw).flatten

lemma within_start {msg : T.State} {d : δ} {fs : List (Frame (List UInt8))} (hfs : ReadsFrames D T msg d fs)
    (acc : WsFrameAccumulator δ) (hd : acc.decoder = d) (hraw : acc.frameRaw = []) (hpay : acc.framePayload = [])
    {more : List UInt8} (hpend : acc.pending ++ more = (fs.map Frame.raw).flatten) : Within D T msg fs 0 more acc := by
  cases hfs with
  | nil hw => exact ⟨hd ▸ .nil hw, hraw, by simpa using hpend⟩
  | cons hf hfs' =>
    refine ⟨d, _, _, hf, hfs', hd ▸ .start, by simpa using hraw, by simpa using hpay, by simpa using hpend⟩

lemma Within.push {msg : T.State} {fs : List (Frame (List UInt8))} {p : Nat} {data more : List UInt8}
    {acc : WsFrameAccumulator δ} (hw : Within D T msg fs p (data ++ more) acc) : Within D T msg fs p more (acc.push data) := by
  cases fs with
  | nil => exact ⟨hw.1, hw.2.1, by simpa using hw.2.2⟩
  | cons f fs =>
    obtain ⟨d, d', img, hf, hfs, hread, hraw, hpay, hpend⟩ := hw
    exact ⟨d, d', img, hf, hfs, hread, hraw, hpay, by simpa using hpend⟩

lemma take_drop_pending {pending more raw rest : List UInt8} {p c : Nat} (hpend : pending ++ more = raw.drop p ++ rest)
    (hc : c ≤ pending.length) (hle : p + c ≤ raw.length) :
    raw.take p ++ pending.take c = raw.take (p + c) ∧ pending.drop c ++ more = raw.drop (p + c) ++ rest := by
  have htake : pending.take c = (raw.drop p).take c := by
    rw [← List.take_append_of_le_length hc, hpend, List.take_append_of_le_length (by simp; omega)]
  have hdrop : pending.drop c ++ more = (raw.drop p).drop c ++ rest := by
    rw [← List.drop_append_of_le_length hc, hpend, List.drop_append_of_le_length (by simp; omega)]
  refine ⟨by rw [htake, List.take_add], by rw [hdrop, List.drop_drop]⟩

lemma Within.nil_wait {msg : T.State} {p : Nat} {more : List UInt8} {acc : WsFrameAccumulator δ}
    (hw : Within D T msg [] p more acc) : D.addData acc.decoder acc.pending = (acc.decoder, .ok (⟨0, none⟩, [])) := by
  obtain ⟨hnil, -, hpend⟩ := hw
  cases hnil with
  | nil hwait => rw [(List.append_eq_nil_iff.1 hpend).1, hwait]

/-- A call that waits inside the first frame only moves the decoder, and it waits only while the
rest of the frame has not all arrived. -/
lemma Within.wait_step {msg : T.State} {f : Frame (List UInt8)} {fs : List (Frame (List UInt8))} {p : Nat}
    {more : List UInt8} {acc : WsFrameAccumulator δ} {d' : δ} {r : AddDataResult} {t : List UInt8}
    (hw : Within D T msg (f :: fs) p more acc) (h : D.addData acc.decoder acc.pending = (d', .ok (r, t)))
    (hwait : r.consumedBytes = 0 ∧ r.event.isNone) :
    Within D T msg (f :: fs) p more { acc with decoder := d' } ∧ more ≠ [] := by
  have hend : endsFrame r.event = false := by
    rw [Option.isNone_iff_eq_none.mp hwait.2]
    rfl
  obtain ⟨d, dn, img, hf, hfs, hread, hraw, hpay, hpend⟩ := hw
  have hread' := Reading.step hread ⟨more, hpend⟩ h hend
  rw [hwait.1, Nat.add_zero] at hread'
  refine ⟨⟨d, dn, img, hf, hfs, hread', hraw, hpay, hpend⟩, fun hmore => ?_⟩
  -- with the whole rest of the frame pending, the decoder does not wait
  obtain ⟨s', r', t', hcall, -, -, -, hprog⟩ := hf.call hread ⟨more, hpend⟩
  rw [h] at hcall
  simp only [Prod.mk.injEq, Except.ok.injEq] at hcall
  obtain ⟨-, rfl, -⟩ := hcall
  have hlen : f.raw.length - p ≤ acc.pending.length := by
    have := congrArg List.length hpend
    simp only [hmore, List.append_nil, List.length_append, List.length_drop] at this
    omega
  rcases hprog hlen with hc | hs
  · exact absurd hwait.1 hc
  · rw [Option.isNone_iff_eq_none.mp hwait.2] at hs
    cases hs

/-- One decoder call inside the first frame `f`, as `drain_frames` absorbs it: a call that ends the
frame completes it as `Frames` does and starts the next frame, any other stays inside `f`. -/
lemma Within.absorb_step {msg : T.State} {f : Frame (List UInt8)} {fs : List (Frame (List UInt8))} {p : Nat}
    {more : List UInt8} {acc : WsFrameAccumulator δ} {d' : δ} {r : AddDataResult} {t : List UInt8}
    (hw : Within D T msg (f :: fs) p more acc) (h : D.addData acc.decoder acc.pending = (d', .ok (r, t))) :
    let acc' := absorb r.event (t.take r.consumedBytes)
      { acc with decoder := d', pending := acc.pending.drop r.consumedBytes,
                 frameRaw := acc.frameRaw ++ acc.pending.take r.consumedBytes }
    (endsFrame r.event = true →
      acc'.1 = [completeFrame T msg f] ∧ Within D T (T.next msg f.opcode f.fin) fs 0 more acc'.2) ∧
    (endsFrame r.event = false → acc'.1 = [] ∧ Within D T msg (f :: fs) (p + r.consumedBytes) more acc'.2) := by
  obtain ⟨d, dn, img, hf, hfs, hread, hraw, hpay, hpend⟩ := hw
  obtain ⟨s', r', t', hcall, hle, htext, hends, -⟩ := hf.call hread ⟨more, hpend⟩
  rw [h] at hcall
  simp only [Prod.mk.injEq, Except.ok.injEq] at hcall
  obtain ⟨rfl, rfl, rfl⟩ := hcall
  have hc := D.consumed_le h
  obtain ⟨hraw', hpend'⟩ := take_drop_pending hpend hc hle
  have hpay' : (img.take p).filterMap id ++ ((img.drop p).take r.consumedBytes).filterMap id =
      (img.take (p + r.consumedBytes)).filterMap id := by
    rw [List.take_add, List.filterMap_append]
  intro acc'
  constructor
  · -- the frame ends: its consumed bytes complete it, and the next frame starts
    intro hend
    obtain ⟨hev, hfull, rfl⟩ := hends hend
    have hframe : (if T.original msg f.opcode = .text ∧ f.fin = true then
          WsCompletedFrame.text f.raw ((img.take p).filterMap id ++ t.take r.consumedBytes)
        else .other f.raw) = completeFrame T msg f := by
      unfold completeFrame
      by_cases ho : T.original msg f.opcode = .text ∧ f.fin = true
      · -- the end of a final text frame: its text bytes complete the payload
        have hlast : t.take r.consumedBytes = ((img.drop p).take r.consumedBytes).filterMap id := by
          rw [← htext, hev, textBytes_end, if_pos ho]
        rw [if_pos ho, if_pos ho, hlast, hpay', hfull, ← hf.length_img, List.take_length, hf.payload ho.1 ho.2]
      · rw [if_neg ho, if_neg ho]
    have hacc' : acc' = ([completeFrame T msg f],
        { acc with decoder := d', pending := acc.pending.drop r.consumedBytes, frameRaw := [], framePayload := [] }) := by
      simp only [acc', hev, absorb_end, hraw, hpay]
      rw [hraw', hfull, List.take_length, hframe]
    rw [hacc']
    exact ⟨rfl, within_start hfs _ rfl rfl rfl (by rw [hpend', hfull, List.drop_length, List.nil_append])⟩
  · -- the frame goes on: the consumed bytes join `frame_raw` and their text the payload
    intro hend
    have hacc' : acc' = ([],
        { acc with
          decoder := d', pending := acc.pending.drop r.consumedBytes,
          frameRaw := f.raw.take (p + r.consumedBytes),
          framePayload := (img.take (p + r.consumedBytes)).filterMap id }) := by
      simp only [acc', absorb_of_endsFrame_false hend, hraw, hpay, htext, hraw', hpay']
    rw [hacc']
    exact ⟨rfl, d, _, img, hf, hfs, Reading.step hread ⟨more, hpend⟩ h hend, rfl, rfl, hpend'⟩

lemma drainFrames_within {more : List UInt8} (acc : WsFrameAccumulator δ) :
    ∀ {msg : T.State} {fs : List (Frame (List UInt8))} {p : Nat}, Within D T msg fs p more acc →
      ∃ k p', (drainFrames D acc).1 = (run (drainStep T) msg (fs.take k)).2 ∧
        Within D T (run (drainStep T) msg (fs.take k)).1 (fs.drop k) p' more (drainFrames D acc).2 ∧
        (more = [] → fs.drop k = []) := by
  induction acc using drainFrames.induct D with
  | case1 acc d' e h _ | case2 acc d' e h _ =>
    -- the decoder never fails on a stream it reads
    intro msg fs p hw
    cases fs with
    | nil =>
      rw [hw.nil_wait] at h
      cases h
    | cons f fs =>
      obtain ⟨d, dn, img, hf, -, hread, -, -, hpend⟩ := hw
      obtain ⟨s', r, t, hcall, -⟩ := hf.call hread ⟨more, hpend⟩
      rw [h] at hcall
      cases hcall
  | case3 acc d' r t h hw =>
    intro msg fs p hw'
    rw [drainFrames_of_wait h hw]
    cases fs with
    | nil =>
      -- waiting on an empty buffer leaves the decoder as it is
      rw [hw'.nil_wait] at h
      obtain ⟨rfl, -⟩ := Prod.mk.inj h
      exact ⟨0, p, rfl, hw', fun _ => rfl⟩
    | cons f fs =>
      obtain ⟨hw'', hmore⟩ := hw'.wait_step h hw
      exact ⟨0, p, rfl, hw'', fun h => absurd h hmore⟩
  | case4 acc d' r t h hw acc' =>
    rename_i ih
    intro msg fs p hw'
    rw [drainFrames_of_step h hw]
    cases fs with
    | nil =>
      rw [hw'.nil_wait] at h
      simp only [Prod.mk.injEq, Except.ok.injEq] at h
      obtain ⟨-, rfl, -⟩ := h
      exact absurd ⟨rfl, rfl⟩ hw
    | cons f fs =>
      obtain ⟨hends, hgoes⟩ := hw'.absorb_step h
      cases hend : endsFrame r.event with
      | true =>
        obtain ⟨hout₁, hnext⟩ := hends hend
        obtain ⟨k, p', hout, hw'', hdone⟩ := ih hnext
        refine ⟨k + 1, p', ?_, ?_, hdone⟩
        · show acc'.1 ++ (drainFrames D acc'.2).1 = _
          rw [hout, hout₁]
          simp [List.take_succ_cons, run_cons, drainStep]
        · show Within D T _ _ p' more (drainFrames D acc'.2).2
          simpa [run_cons, drainStep] using hw''
      | false =>
        obtain ⟨hout₁, hstay⟩ := hgoes hend
        obtain ⟨k, p', hout, hw'', hdone⟩ := ih hstay
        refine ⟨k, p', ?_, hw'', hdone⟩
        show acc'.1 ++ (drainFrames D acc'.2).1 = _
        rw [hout, hout₁, List.nil_append]

lemma pushDrain_within : ∀ (reads : List (List UInt8)) {msg : T.State} {fs : List (Frame (List UInt8))}
    {p : Nat} {acc : WsFrameAccumulator δ}, Within D T msg fs p reads.flatten acc → (reads.flatten = [] → fs = []) →
      (pushDrain D acc reads).1 = (run (drainStep T) msg fs).2 ∧ (pushDrain D acc reads).2.frameRaw = [] ∧
        (pushDrain D acc reads).2.pending = []
  | [], msg, fs, p, acc, hw, hdone => by
    obtain rfl := hdone rfl
    exact ⟨rfl, hw.2.1, (List.append_eq_nil_iff.1 hw.2.2).1⟩
  | data :: reads, msg, fs, p, acc, hw, _ => by
    rw [List.flatten_cons] at hw
    obtain ⟨k, p', hout, hw', hk⟩ := drainFrames_within (acc.push data) hw.push
    obtain ⟨hframes, hraw, hpend⟩ := pushDrain_within reads hw' hk
    refine ⟨?_, hraw, hpend⟩
    -- the frames of this drain, then those of the rest of the run
    rw [pushDrain, hout, hframes]
    conv_rhs => rw [← List.take_append_drop k fs, run_append]

lemma ReadsFrames.eq_nil_of_flatten {msg : T.State} {d : δ} {fs : List (Frame (List UInt8))}
    (hfs : ReadsFrames D T msg d fs) (h : (fs.map Frame.raw).flatten = []) : fs = [] := by
  cases hfs with
  | nil _ => rfl
  | cons hf _ =>
    have := hf.length_pos
    simp_all

/-- Over a stream of frames the decoder reads, cut into reads in any way, the accumulator completes
exactly the frames `Frames.drainFrames` gives, and ends with nothing buffered. -/
theorem pushDrain_frames {d0 : δ} {fs : List (Frame (List UInt8))} (hD : ReadsFrames D T T.init d0 fs)
    (reads : List (List UInt8)) (hreads : reads.flatten = (fs.map Frame.raw).flatten) :
    (pushDrain D (new d0) reads).1 = Frames.drainFrames T fs ∧ (pushDrain D (new d0) reads).2.frameRaw = [] ∧
      (pushDrain D (new d0) reads).2.pending = [] :=
  pushDrain_within reads (within_start hD (new d0) rfl rfl rfl (by simpa [new] using hreads))
    fun h => hD.eq_nil_of_flatten (hreads ▸ h)

end Stream


/-! ### Bytes over a connection -/

def rejectAll : FrameDecoder Unit Unit where
  addData d buf := if buf = [] then (d, .ok (⟨0, none⟩, buf)) else (d, .error ())
  size _ := 0
  consumed_le := by
    intro d buf d' r t h
    split at h <;> cases h
    simp
  size_lt := by
    intro d buf d' r t h _ hev
    split at h <;> cases h
    simp at hev

lemma errorsAtBoundary_rejectAll : ErrorsAtBoundary rejectAll fun _ => True where
  error _ := trivial
  busy h hc _ := by
    simp only [rejectAll] at h
    split at h <;> cases h
    exact absurd rfl hc
  stay _ _ _ _ := trivial

/-- The bytes `Parser::poll_read` pushes, from a new accumulator and however they are cut into
reads, come out of the emitted frames, `frame_raw` and `pending` in order, some perhaps dropped,
and none when the decoder reports protocol errors only at frame boundaries. -/
theorem pushed_bytes_kept (D : FrameDecoder δ ε) (d0 : δ) (reads : List (List UInt8)) :
    List.Sublist (raws (pushDrain D (new d0) reads).1 ++ (pushDrain D (new d0) reads).2.frameRaw ++
      (pushDrain D (new d0) reads).2.pending) reads.flatten ∧
    (∀ boundary, ErrorsAtBoundary D boundary →
      raws (pushDrain D (new d0) reads).1 ++ (pushDrain D (new d0) reads).2.frameRaw ++
        (pushDrain D (new d0) reads).2.pending = reads.flatten) ∧
    ∀ T fs, ReadsFrames D T T.init d0 fs → reads.flatten = (fs.map Frames.Frame.raw).flatten →
      (pushDrain D (new d0) reads).1 = Frames.drainFrames T fs ∧ (pushDrain D (new d0) reads).2.frameRaw = [] ∧
        (pushDrain D (new d0) reads).2.pending = [] := by
  refine ⟨by simpa [new] using pushDrain_sublist D (new d0) reads, fun boundary hD => ?_,
    fun _ _ hD hreads => pushDrain_frames hD reads hreads⟩
  -- a new accumulator has no frame in progress
  simpa [new] using pushDrain_conserves D hD (new d0) reads (fun _ => rfl)

theorem pushed_bytes_kept_rejectAll :
    ErrorsAtBoundary rejectAll (fun _ => True) ∧
    raws (pushDrain rejectAll (new ()) [[1], [2]]).1 ++ (pushDrain rejectAll (new ()) [[1], [2]]).2.frameRaw ++
      (pushDrain rejectAll (new ()) [[1], [2]]).2.pending = [1, 2] :=
  ⟨errorsAtBoundary_rejectAll, (pushed_bytes_kept rejectAll () [[1], [2]]).2.1 _ errorsAtBoundary_rejectAll⟩

lemma split_control_header {D : FrameDecoder δ ε} {d0 d1 d2 d3 : δ} {e e' : ε} {t : List UInt8}
    (h1 : D.addData d0 [0x89] = (d1, .ok (⟨1, none⟩, t))) (hw : D.addData d1 [] = (d1, .ok (⟨0, none⟩, [])))
    (h2 : D.addData d1 [0x7E] = (d2, .error e)) (h12 : D.addData d0 [0x89, 0x7E] = (d3, .error e')) :
    (pushDrain D (new d0) [[0x89, 0x7E]]).1 = [.other [0x89, 0x7E]] ∧
    (pushDrain D (new d0) [[0x89], [0x7E]]).1 = [.other [0x7E]] ∧
    (pushDrain D (new d0) [[0x89], [0x7E]]).2.frameRaw = [] ∧
    (pushDrain D (new d0) [[0x89], [0x7E]]).2.pending = [] := by
  -- one read: the decoder fails on the two bytes at once, which are forwarded as they are
  have hone : drainFrames D ((new d0).push [0x89, 0x7E]) = ([.other [0x89, 0x7E]], ⟨d3, [], [], []⟩) := by
    rw [drainFrames_of_error h12]
    rfl
  -- two reads: the first byte goes to `frame_raw`, and the second draws the error
  have hfirst : drainFrames D ((new d0).push [0x89]) = ([], ⟨d1, [], [0x89], []⟩) := by
    rw [drainFrames_of_step h1 (by decide)]
    show (([] : List (WsCompletedFrame (List UInt8))) ++ (drainFrames D ⟨d1, [], [0x89], []⟩).1,
      (drainFrames D ⟨d1, [], [0x89], []⟩).2) = _
    rw [drainFrames_of_wait hw (by decide)]
    rfl
  have hsecond : drainFrames D (WsFrameAccumulator.push ⟨d1, [], [0x89], []⟩ [0x7E]) =
      ([.other [0x7E]], ⟨d2, [], [], []⟩) := by
    rw [drainFrames_of_error h2]
    rfl
  simp only [pushDrain, hone, hfirst, hsecond]
  simp

inductive HeaderState where
  | beginning
  | afterFirst (b0 : UInt8)

def controlTooLong (b0 b1 : UInt8) : Bool := 8 ≤ b0 % 16 && 125 < b1 % 128

/-- A decoder that reads the first two bytes of a header as `websocket_sans_io` does: it consumes
the first as it arrives and fails on the second when it makes a control frame too long. Past those
two bytes it is a stand-in that waits. -/
def controlHeaderDecoder : FrameDecoder HeaderState Unit where
  addData d buf := match d, buf with
    | _, [] => (d, .ok (⟨0, none⟩, []))
    | .beginning, [b0] => (.afterFirst b0, .ok (⟨1, none⟩, [b0]))
    | .beginning, b0 :: b1 :: _ => if controlTooLong b0 b1 then (d, .error ()) else (d, .ok (⟨0, none⟩, buf))
    | .afterFirst b0, b1 :: _ => if controlTooLong b0 b1 then (d, .error ()) else (d, .ok (⟨0, none⟩, buf))
  size _ := 0
  consumed_le := by
    intro d buf d' r t h
    split at h <;> (try split at h) <;> cases h <;> simp
  size_lt := by
    intro d buf d' r t h _ hev
    split at h <;> (try split at h) <;> cases h <;> simp at hev

/-- A final ping whose header is cut between two reads, its length byte `0x7E` being one a
control frame may not have: the protocol error drops the first byte, which the decoder had consumed
into `frame_raw`, and the frames differ from those of the same bytes in one read. -/
theorem split_header_drops_byte :
    (pushDrain controlHeaderDecoder (new .beginning) [[0x89, 0x7E]]).1 = [.other [0x89, 0x7E]] ∧
    (pushDrain controlHeaderDecoder (new .beginning) [[0x89], [0x7E]]).1 = [.other [0x7E]] ∧
    (pushDrain controlHeaderDecoder (new .beginning) [[0x89], [0x7E]]).2.frameRaw = [] ∧
    (pushDrain controlHeaderDecoder (new .beginning) [[0x89], [0x7E]]).2.pending = [] :=
  split_control_header rfl rfl rfl rfl

end AgentGateway.Realtime.Accumulator
