import AgentGateway.Llm.Transform
import AgentGateway.Library.Bytes

/-! The AWS event-stream body transforms of `llm/parse/aws_sse.rs`, with the message frame
decoder as a parameter. -/

namespace AgentGateway.Llm.AwsEventStream

open AgentGateway.Llm.Transform Library.Bytes
open AgentGateway.Llm.StreamingGuardrails (BodyFrame)

def eventstreamPreludeLen : Nat := 12

def beU32 (bytes : List UInt8) : Nat := bytes.foldl (fun n b => 256 * n + b.toNat) 0

inductive EventStreamError (ε : Type) where
  | protocol (e : ε)
  | io
  | frameTooLarge (actual limit : Nat)

inductive DecodedFrame (μ : Type) where
  | complete (message : μ)
  | incomplete

/-- `MessageFrameDecoder::decode_frame`: it reads from the front of the buffer and keeps what it has
read of an incomplete frame in its own state; a complete frame takes at least one byte. -/
structure MessageFrameDecoder (φ μ ε : Type) where
  decodeFrame : φ → List UInt8 → Except ε (DecodedFrame μ × φ × List UInt8)
  complete_shrinks : ∀ {st buf m st' buf'}, decodeFrame st buf = .ok (.complete m, st', buf') →
    buf'.length < buf.length

structure EventStreamCodec (φ : Type) where
  inner : φ
  maxFrameSize : Option Nat

namespace EventStreamCodec

variable {φ μ ε : Type} (M : MessageFrameDecoder φ μ ε)

def withMaxSize (fresh : φ) (maxFrameSize : Nat) : EventStreamCodec φ := ⟨fresh, some maxFrameSize⟩

def frameLen (src : List UInt8) : Option Nat :=
  if src.length < eventstreamPreludeLen then none else some (beU32 (src.take 4))

def validateFrameSize (codec : EventStreamCodec φ) (frameLen : Nat) : Except (EventStreamError ε) Unit :=
  match codec.maxFrameSize with
  | none => .ok ()
  | some limit => if frameLen > limit then .error (.frameTooLarge frameLen limit) else .ok ()

def decode (codec : EventStreamCodec φ) (src : List UInt8) :
    Except (EventStreamError ε) (Option μ × EventStreamCodec φ × List UInt8) :=
  match frameLen src with
  | none => .ok (none, codec, src)
  | some frameLen =>
    match validateFrameSize codec frameLen with
    | .error e => .error e
    | .ok () =>
      if src.length < frameLen then .ok (none, codec, src)
      else
        match M.decodeFrame codec.inner src with
        | .ok (.complete message, inner, rest) => .ok (some message, { codec with inner }, rest)
        | .ok (.incomplete, inner, rest) => .ok (none, { codec with inner }, rest)
        | .error e => .error (.protocol e)

lemma decode_shrinks {codec codec' : EventStreamCodec φ} {src src' : List UInt8} {m : μ}
    (h : decode M codec src = .ok (some m, codec', src')) : src'.length < src.length := by
  unfold decode at h
  split at h
  · cases h
  · split at h
    · cases h
    · split_ifs at h
      · cases h
      · split at h
        · rename_i hframe
          cases h
          exact M.complete_shrinks hframe
        · cases h
        · cases h

def decoder : Decoder (EventStreamCodec φ) μ (EventStreamError ε) where
  decode := decode M
  bytesRemaining := .io
  decode_shrinks := decode_shrinks M

end EventStreamCodec

/-! ### The codec reads a stream of valid frames -/

section Frames

variable {φ μ ε : Type} {M : MessageFrameDecoder φ μ ε} {fresh : φ} {limit : Nat}

/-- A valid frame of the message `m`: at least a prelude long, its prelude declares its length,
and from the fresh state the inner decoder reads it whole into `m`, consuming exactly its bytes. -/
structure WellFormedFrame (M : MessageFrameDecoder φ μ ε) (fresh : φ) (frame : List UInt8) (m : μ) : Prop where
  prelude_le : eventstreamPreludeLen ≤ frame.length
  declared : beU32 (frame.take 4) = frame.length
  decodes : ∀ rest, M.decodeFrame fresh (frame ++ rest) = .ok (.complete m, fresh, rest)

lemma frameLen_eq {frame src : List UInt8} (hdecl : beU32 (frame.take 4) = frame.length)
    (hlen : eventstreamPreludeLen ≤ src.length) (hagree : src.take 4 = frame.take 4) :
    EventStreamCodec.frameLen src = some frame.length := by
  unfold EventStreamCodec.frameLen
  rw [if_neg (by omega), hagree, hdecl]

lemma decode_wait {codec : EventStreamCodec φ} {src : List UInt8} {len : Nat}
    (hframe : EventStreamCodec.frameLen src = some len) (hsize : codec.maxFrameSize = some limit) (hlim : len ≤ limit)
    (hshort : src.length < len) : EventStreamCodec.decode M codec src = .ok (none, codec, src) := by
  unfold EventStreamCodec.decode EventStreamCodec.validateFrameSize
  rw [hframe, hsize]
  dsimp only
  rw [if_neg (by omega)]
  dsimp only
  rw [if_pos hshort]

lemma decoder_frames {frames : List (List UInt8 × μ)} (hwf : ∀ f ∈ frames, WellFormedFrame M fresh f.1 f.2)
    (hlim : ∀ f ∈ frames, f.1.length ≤ limit) :
    (EventStreamCodec.decoder M).Frames (EventStreamCodec.withMaxSize fresh limit) frames where
  complete f hf rest := by
    have hw := hwf f hf
    have h4 : 4 ≤ f.1.length := Nat.le_trans (by decide) hw.prelude_le
    have hframe : EventStreamCodec.frameLen (f.1 ++ rest) = some f.1.length :=
      frameLen_eq hw.declared (by simp only [List.length_append]; have := hw.prelude_le; omega)
        (List.take_append_of_le_length h4)
    show EventStreamCodec.decode M _ _ = _
    unfold EventStreamCodec.decode EventStreamCodec.validateFrameSize
    rw [hframe]
    dsimp only [EventStreamCodec.withMaxSize]
    rw [if_neg (by have := hlim f hf; omega), if_neg (by simp), hw.decodes rest]
  incomplete f hf p hp hne := by
    have hw := hwf f hf
    show EventStreamCodec.decode M _ _ = _
    by_cases hlen : eventstreamPreludeLen ≤ p.length
    · have hshort : p.length < f.1.length := Stub.length_lt (show Stub (f :: frames) p from ⟨hp, hne⟩)
      have hagree : p.take 4 = f.1.take 4 := by
        obtain ⟨t, ht⟩ := hp
        rw [← ht, List.take_append_of_le_length (Nat.le_trans (by decide) hlen)]
      exact decode_wait (frameLen_eq hw.declared hlen hagree) rfl (hlim f hf) hshort
    · unfold EventStreamCodec.decode EventStreamCodec.frameLen
      rw [if_pos (by omega)]
  empty := rfl

end Frames

/-! ### The handlers of `transform` and `transform_multi` -/

/-- `encode_sse_event`: an optional `event:` line, one `data:` line per line of the data, and a
blank line. -/
def encodeSseEvent (eventName data : List UInt8) : List UInt8 :=
  -- "event: " and "data: "
  (if eventName.isEmpty then [] else [101, 118, 101, 110, 116, 58, 32] ++ eventName ++ [10]) ++
    ((split 10 data).map fun line => [100, 97, 116, 97, 58, 32] ++ line ++ [10]).flatten ++ [10]

variable {σ μ O : Type}

/-- The closure `transform` hands to the parser: the caller's `f`, then its JSON as an unnamed
event, or nothing when `f` gives nothing or the JSON fails. -/
def transformHandler (f : σ → μ → σ × Option O) (toJson : O → Option (List UInt8)) (s : σ) (m : μ) :
    σ × List (List UInt8) :=
  ((f s m).1, (((f s m).2.bind toJson).map (encodeSseEvent [])).toList)

/-- The closure of `transform_multi`: each named event the caller's `f` gives, as its JSON, those
whose JSON fails left out. -/
def transformMultiHandler (f : σ → μ → σ × List (List UInt8 × O)) (toJson : O → Option (List UInt8))
    (s : σ) (m : μ) : σ × List (List UInt8) :=
  ((f s m).1, (f s m).2.filterMap fun event => (toJson event.2).map (encodeSseEvent event.1))

section Transforms

variable {φ ε τ : Type} (M : MessageFrameDecoder φ μ ε)

/-- `transform`: `transform_parser` over the codec limited to `buffer_limit`, with `transform`'s
closure, polled `fuel` times; what the body yields, and the body after. -/
def transform (fresh : φ) (bufferLimit : Nat) (f : σ → μ → σ × Option O) (toJson : O → Option (List UInt8))
    (fuel : Nat) (b : List (BodyFrame UInt8 τ)) (s : σ) :
    List (Out (EventStreamError ε) τ) × TransformedBody (EventStreamCodec φ) σ τ :=
  Transform.run (EventStreamCodec.decoder M) (transformHandler f toJson) fuel
    (parser b (EventStreamCodec.withMaxSize fresh bufferLimit) s)

def transformMulti (fresh : φ) (bufferLimit : Nat) (f : σ → μ → σ × List (List UInt8 × O))
    (toJson : O → Option (List UInt8)) (fuel : Nat) (b : List (BodyFrame UInt8 τ)) (s : σ) :
    List (Out (EventStreamError ε) τ) × TransformedBody (EventStreamCodec φ) σ τ :=
  Transform.run (EventStreamCodec.decoder M) (transformMultiHandler f toJson) fuel
    (parser b (EventStreamCodec.withMaxSize fresh bufferLimit) s)

end Transforms

/-! ### `inspect` -/

structure Inspect (φ σ : Type) where
  decoder : EventStreamCodec φ
  decodeBuffer : List UInt8
  inspectFailed : Bool
  handler : σ

section Inspect

variable {φ ε : Type} (M : MessageFrameDecoder φ μ ε)

-- the linter does not see the use of the match hypothesis in the termination proof
set_option linter.unusedVariables false in
/-- The decode loop of `inspect`: hand each decoded message to `f` until the codec asks for more;
a decode error ends the inspection and clears the buffer. -/
def inspectLoop (f : σ → μ → σ) (codec : EventStreamCodec φ) (buf : List UInt8) (s : σ) : Inspect φ σ :=
  match h : EventStreamCodec.decode M codec buf with
  | .ok (some message, codec', buf') => inspectLoop f codec' buf' (f s message)
  | .ok (none, codec', buf') => ⟨codec', buf', false, s⟩
  | .error _ => ⟨codec, [], true, s⟩
termination_by buf.length
decreasing_by exact EventStreamCodec.decode_shrinks M h

/-- The closure `inspect` maps over the body's chunks: every chunk passes through, and while the
inspection lasts, a chunk that would take the buffer past the limit ends it. -/
def inspectChunk (f : σ → μ → σ) (bufferLimit : Nat) (st : Inspect φ σ) (bytes : List UInt8) :
    Inspect φ σ × List (List UInt8) :=
  if !st.inspectFailed then
    if st.decodeBuffer.length + bytes.length > bufferLimit then
      ({ st with inspectFailed := true, decodeBuffer := [] }, [bytes])
    else (inspectLoop M f st.decoder (st.decodeBuffer ++ bytes) st.handler, [bytes])
  else (st, [bytes])

def inspect (fresh : φ) (bufferLimit : Nat) (f : σ → μ → σ) (s : σ) (chunks : List (List UInt8)) :
    Inspect φ σ × List (List UInt8) :=
  Library.Transducer.run (inspectChunk M f bufferLimit) ⟨EventStreamCodec.withMaxSize fresh bufferLimit, [], false, s⟩
    chunks

/-- The bytes of the frame still incomplete after `n` bytes of a stream whose frames have these
lengths. -/
def stubAfter : List Nat → Nat → Nat
  | [], n => n
  | len :: lens, n => if len ≤ n then stubAfter lens (n - len) else n

/-- From byte `n` of the stream on, each chunk together with the incomplete frame buffered before it
fits in the limit. -/
def ChunksFit (lens : List Nat) (limit : Nat) : Nat → List (List UInt8) → Prop
  | _, [] => True
  | n, c :: cs => stubAfter lens n + c.length ≤ limit ∧ ChunksFit lens limit (n + c.length) cs

instance ChunksFit.decidable (lens : List Nat) (limit : Nat) : ∀ n cs, Decidable (ChunksFit lens limit n cs)
  | _, [] => isTrue trivial
  | n, c :: cs =>
    have := ChunksFit.decidable lens limit (n + c.length) cs
    inferInstanceAs (Decidable (_ ∧ _))

variable {M} {fresh : φ} {limit : Nat} {frames : List (List UInt8 × μ)} {f : σ → μ → σ}

lemma inspectLoop_some {codec codec' : EventStreamCodec φ} {buf buf' : List UInt8} {m : μ}
    (hd : (EventStreamCodec.decoder M).decode codec buf = .ok (some m, codec', buf')) (s : σ) :
    inspectLoop M f codec buf s = inspectLoop M f codec' buf' (f s m) := by
  replace hd : EventStreamCodec.decode M codec buf = _ := hd
  rw [inspectLoop]
  split <;> rename_i hd' <;> rw [hd] at hd' <;> simp only [Except.ok.injEq, Prod.mk.injEq, Option.some.injEq,
    reduceCtorEq, false_and] at hd'
  obtain ⟨rfl, rfl, rfl⟩ := hd'
  rfl

lemma inspectLoop_none {codec codec' : EventStreamCodec φ} {buf buf' : List UInt8}
    (hd : (EventStreamCodec.decoder M).decode codec buf = .ok (none, codec', buf')) (s : σ) :
    inspectLoop M f codec buf s = ⟨codec', buf', false, s⟩ := by
  replace hd : EventStreamCodec.decode M codec buf = _ := hd
  rw [inspectLoop]
  split <;> rename_i hd' <;> rw [hd] at hd' <;> simp only [Except.ok.injEq, Prod.mk.injEq, reduceCtorEq,
    false_and] at hd'
  obtain ⟨-, rfl, rfl⟩ := hd'
  rfl

lemma inspectLoop_frames (hD : (EventStreamCodec.decoder M).Frames (EventStreamCodec.withMaxSize fresh limit) frames)
    (f : σ → μ → σ) :
    ∀ (buf : List UInt8) (s : σ), buf <+: (frames.map Prod.fst).flatten →
      ∃ r p, buf = ((frames.take r).map Prod.fst).flatten ++ p ∧ Stub (frames.drop r) p ∧
        inspectLoop M f (EventStreamCodec.withMaxSize fresh limit) buf s =
          ⟨EventStreamCodec.withMaxSize fresh limit, p, false, ((frames.take r).map Prod.snd).foldl f s⟩ := by
  induction frames with
  | nil =>
    intro buf s hbuf
    obtain rfl : buf = [] := List.prefix_nil.1 hbuf
    exact ⟨0, [], rfl, rfl, inspectLoop_none hD.empty s⟩
  | cons g frames ih =>
    intro buf s hbuf
    rw [List.map_cons, List.flatten_cons] at hbuf
    rcases prefix_append_cases hbuf with ⟨buf', rfl, hbuf'⟩ | hstub
    · obtain ⟨r, p, hsplit, hp, hloop⟩ := ih hD.tail buf' (f s g.2) hbuf'
      refine ⟨r + 1, p, by simp [hsplit], hp, ?_⟩
      rw [inspectLoop_some (hD.complete g List.mem_cons_self buf'), hloop]
      simp
    · exact ⟨0, buf, by simp, hstub, inspectLoop_none (hD.decode_stub hstub) s⟩

lemma inspectChunk_snd (st : Inspect φ σ) (bytes : List UInt8) : (inspectChunk M f limit st bytes).2 = [bytes] := by
  unfold inspectChunk
  split_ifs <;> rfl

lemma run_inspectChunk_snd (st : Inspect φ σ) (cs : List (List UInt8)) :
    (Library.Transducer.run (inspectChunk M f limit) st cs).2 = cs := by
  induction cs generalizing st with
  | nil => rfl
  | cons c cs ih => rw [Library.Transducer.run_cons, inspectChunk_snd, ih]; rfl

lemma run_inspectChunk_failed (st : Inspect φ σ) (hst : st.inspectFailed = true) (cs : List (List UInt8)) :
    (Library.Transducer.run (inspectChunk M f limit) st cs).1 = st := by
  induction cs with
  | nil => rfl
  | cons c cs ih =>
    rw [Library.Transducer.run_cons]
    have hstep : (inspectChunk M f limit st c).1 = st := by
      unfold inspectChunk
      rw [if_neg (by simp [hst])]
    rw [hstep, ih]

lemma stubAfter_eq : ∀ (frames : List (List UInt8 × μ)) (j : Nat) (p : List UInt8), Stub (frames.drop j) p →
    stubAfter (frames.map fun g => g.1.length) (((frames.take j).map Prod.fst).flatten ++ p).length = p.length
  | [], j, p, hp => by
    rw [List.drop_nil] at hp
    cases hp
    simp [stubAfter]
  | g :: frames, 0, p, hp => by
    simp [stubAfter, Nat.not_le.2 (Stub.length_lt hp)]
  | g :: frames, j + 1, p, hp => by
    have ih := stubAfter_eq frames j p hp
    simp only [List.take_succ_cons, List.map_cons, List.flatten_cons, List.append_assoc, List.length_append,
      stubAfter, Nat.le_add_right, ↓reduceIte, Nat.add_sub_cancel_left]
    simpa using ih

lemma inspectChunk_overflow (st : Inspect φ σ) {c : List UInt8} (hover : limit < st.decodeBuffer.length + c.length) :
    (inspectChunk M f limit st c).1.inspectFailed = true ∧ (inspectChunk M f limit st c).1.handler = st.handler := by
  unfold inspectChunk
  cases hst : st.inspectFailed
  · rw [Bool.not_false, if_pos rfl, if_pos hover]
    exact ⟨rfl, rfl⟩
  · rw [if_neg (by decide)]
    exact ⟨hst, rfl⟩

lemma inspectChunk_fits (hD : (EventStreamCodec.decoder M).Frames (EventStreamCodec.withMaxSize fresh limit) frames)
    {j : Nat} {p c : List UInt8} {s : σ} (hc : p ++ c <+: ((frames.drop j).map Prod.fst).flatten)
    (hfit : p.length + c.length ≤ limit) :
    ∃ r p', p ++ c = (((frames.drop j).take r).map Prod.fst).flatten ++ p' ∧ Stub (frames.drop (j + r)) p' ∧
      (inspectChunk M f limit ⟨EventStreamCodec.withMaxSize fresh limit, p, false, s⟩ c).1 =
        ⟨EventStreamCodec.withMaxSize fresh limit, p', false, (((frames.drop j).take r).map Prod.snd).foldl f s⟩ := by
  obtain ⟨r, p', hsplit, hp', hloop⟩ := inspectLoop_frames (hD.drop j) f (p ++ c) s hc
  refine ⟨r, p', hsplit, by rwa [List.drop_drop] at hp', ?_⟩
  unfold inspectChunk
  dsimp only
  rw [Bool.not_false, if_pos rfl, if_neg (Nat.not_lt.2 hfit)]
  exact hloop

lemma read_length_after {j r : Nat} {p c p' : List UInt8}
    (hsplit : p ++ c = (((frames.drop j).take r).map Prod.fst).flatten ++ p') :
    (((frames.take (j + r)).map Prod.fst).flatten ++ p').length =
      (((frames.take j).map Prod.fst).flatten ++ p).length + c.length := by
  have hlen := congrArg List.length hsplit
  simp only [List.take_add, List.map_append, List.flatten_append, List.length_append] at hlen ⊢
  omega

lemma run_inspectChunk_prefix
    (hD : (EventStreamCodec.decoder M).Frames (EventStreamCodec.withMaxSize fresh limit) frames) :
    ∀ (cs : List (List UInt8)) (j : Nat) (p : List UInt8) (s : σ),
      p ++ cs.flatten = ((frames.drop j).map Prod.fst).flatten →
      ∃ k, (Library.Transducer.run (inspectChunk M f limit)
        ⟨EventStreamCodec.withMaxSize fresh limit, p, false, s⟩ cs).1.handler =
          (((frames.drop j).take k).map Prod.snd).foldl f s
  | [], _, _, _, _ => ⟨0, rfl⟩
  | c :: cs, j, p, s, hflat => by
    rw [Library.Transducer.run_cons]
    by_cases hover : limit < p.length + c.length
    · -- the overflowing chunk ends the inspection with the messages seen so far
      obtain ⟨hfailed, hhandler⟩ := inspectChunk_overflow ⟨EventStreamCodec.withMaxSize fresh limit, p, false, s⟩ hover
      exact ⟨0, by rw [run_inspectChunk_failed _ hfailed, hhandler]; rfl⟩
    · have hc : p ++ c <+: ((frames.drop j).map Prod.fst).flatten := ⟨cs.flatten, by rw [← hflat]; simp⟩
      obtain ⟨r, p', hsplit, -, hst⟩ := inspectChunk_fits hD hc (Nat.not_lt.1 hover)
      have hnext : p' ++ cs.flatten = ((frames.drop (j + r)).map Prod.fst).flatten :=
        rest_after_frames (by rw [List.append_assoc, ← List.flatten_cons]; exact hflat) hsplit
      obtain ⟨k, hk⟩ := run_inspectChunk_prefix hD cs (j + r) p' _ hnext
      refine ⟨r + k, ?_⟩
      rw [hst, hk, ← List.foldl_append, ← List.map_append, ← List.drop_drop, ← List.take_add]

lemma run_inspectChunk_all
    (hD : (EventStreamCodec.decoder M).Frames (EventStreamCodec.withMaxSize fresh limit) frames) :
    ∀ (cs : List (List UInt8)) (j : Nat) (p : List UInt8) (s : σ),
      p ++ cs.flatten = ((frames.drop j).map Prod.fst).flatten → Stub (frames.drop j) p →
      ChunksFit (frames.map fun g => g.1.length) limit (((frames.take j).map Prod.fst).flatten ++ p).length cs →
      (Library.Transducer.run (inspectChunk M f limit) ⟨EventStreamCodec.withMaxSize fresh limit, p, false, s⟩ cs).1 =
        ⟨EventStreamCodec.withMaxSize fresh limit, [], false, ((frames.drop j).map Prod.snd).foldl f s⟩
  | [], j, p, s, hflat, hp, _ => by
    obtain ⟨hnil, rfl⟩ := hp.eq_nil (by simpa using hflat)
    simp [hnil]
  | c :: cs, j, p, s, hflat, hp, ⟨hfit, hrest⟩ => by
    rw [stubAfter_eq frames j p hp] at hfit
    have hc : p ++ c <+: ((frames.drop j).map Prod.fst).flatten := ⟨cs.flatten, by rw [← hflat]; simp⟩
    obtain ⟨r, p', hsplit, hp', hst⟩ := inspectChunk_fits hD hc hfit
    have hnext : p' ++ cs.flatten = ((frames.drop (j + r)).map Prod.fst).flatten :=
      rest_after_frames (by rw [List.append_assoc, ← List.flatten_cons]; exact hflat) hsplit
    rw [Library.Transducer.run_cons, hst,
      run_inspectChunk_all hD cs (j + r) p' _ hnext hp' (read_length_after hsplit ▸ hrest),
      ← List.foldl_append, ← List.map_append, ← List.drop_drop, List.take_append_drop]

lemma stub_nil_of_wellFormed (hwf : ∀ g ∈ frames, WellFormedFrame M fresh g.1 g.2) : Stub frames [] := by
  cases frames with
  | nil => rfl
  | cons g frames =>
    refine ⟨List.nil_prefix, fun h => ?_⟩
    have hlen := (hwf g List.mem_cons_self).prelude_le
    rw [← h] at hlen
    exact absurd hlen (by decide)

lemma inspect_two_frames {frame : List UInt8} {m : μ} (hwf : WellFormedFrame M fresh frame m)
    (hfit : frame.length ≤ limit) (hover : limit < frame.length + frame.length) (f : σ → μ → σ) (s : σ) :
    (inspect M fresh limit f s [frame ++ frame]).1.handler = s ∧
      (inspect M fresh limit f s [frame, frame]).1.handler = f (f s m) m := by
  constructor
  · -- the one chunk overflows the empty buffer, so the inspection ends before it decodes anything
    have h := inspectChunk_overflow (M := M) (f := f) ⟨EventStreamCodec.withMaxSize fresh limit, [], false, s⟩
      (c := frame ++ frame) (by simpa using hover)
    rw [inspect, Library.Transducer.run_cons, run_inspectChunk_failed _ h.1, h.2]
  · have hframes : ∀ g ∈ [(frame, m), (frame, m)], WellFormedFrame M fresh g.1 g.2 := by simp [hwf]
    have hD : (EventStreamCodec.decoder M).Frames (EventStreamCodec.withMaxSize fresh limit)
        [(frame, m), (frame, m)] := decoder_frames hframes (by simp [hfit])
    -- each chunk is a whole frame, which fits beside the empty stub
    have hpos : 0 < frame.length := Nat.lt_of_lt_of_le (by decide) hwf.prelude_le
    have hchunks : ChunksFit ([(frame, m), (frame, m)].map fun g => g.1.length) limit
        ((([(frame, m), (frame, m)].take 0).map Prod.fst).flatten ++ []).length [frame, frame] := by
      simp [ChunksFit, stubAfter, Nat.not_le.2 hpos, hfit]
    have h := run_inspectChunk_all (f := f) hD [frame, frame] 0 [] s (by simp) (stub_nil_of_wellFormed hframes)
      hchunks
    rw [inspect, h]
    rfl

end Inspect


/-! ### A stand-in for `MessageFrameDecoder` -/

inductive FrameError where
  | preludeChecksumMismatch
  | invalidMessageLength
  | invalidHeadersLength
  | messageChecksumMismatch

/-- A frame decoder that checks the prelude's checksum once the prelude has arrived, and the message
checksum once the whole declared frame has; the message is the frame's header bytes and its payload.
It keeps nothing of an incomplete frame, which the codec never hands it. -/
def crcFrameDecoder : MessageFrameDecoder Unit (List UInt8 × List UInt8) FrameError where
  decodeFrame _ buf :=
    if buf.length < eventstreamPreludeLen then .ok (.incomplete, (), buf)
    else if beU32 ((buf.drop 8).take 4) ≠ crc32 (buf.take 8) then .error .preludeChecksumMismatch
    else if beU32 (buf.take 4) < 16 then .error .invalidMessageLength
    else if beU32 (buf.take 4) - 16 < beU32 ((buf.drop 4).take 4) then .error .invalidHeadersLength
    else if buf.length < beU32 (buf.take 4) then .ok (.incomplete, (), buf)
    else if beU32 ((buf.drop (beU32 (buf.take 4) - 4)).take 4) ≠ crc32 (buf.take (beU32 (buf.take 4) - 4)) then
      .error .messageChecksumMismatch
    else
      .ok (.complete ((buf.drop 12).take (beU32 ((buf.drop 4).take 4)),
        (buf.take (beU32 (buf.take 4) - 4)).drop (12 + beU32 ((buf.drop 4).take 4))), (), buf.drop (beU32 (buf.take 4)))
  complete_shrinks := by
    intro _ buf _ _ buf' h
    -- only the last branch completes a frame, and it takes the declared length, at least 16 bytes
    split_ifs at h <;> cases h
    rw [List.length_drop]
    omega

lemma take_drop_append {frame rest : List UInt8} {i j : Nat} (h : i + j ≤ frame.length) :
    ((frame ++ rest).drop i).take j = (frame.drop i).take j := by
  rw [List.drop_append_of_le_length (by omega), List.take_append_of_le_length (by simp; omega)]

lemma wellFormedFrame_crcFrameDecoder {frame : List UInt8} (hlen : 16 ≤ frame.length)
    (hdecl : beU32 (frame.take 4) = frame.length)
    (hheaders : beU32 ((frame.drop 4).take 4) ≤ frame.length - 16)
    (hprelude : beU32 ((frame.drop 8).take 4) = crc32 (frame.take 8))
    (hmessage : beU32 ((frame.drop (frame.length - 4)).take 4) = crc32 (frame.take (frame.length - 4))) :
    WellFormedFrame crcFrameDecoder () frame
      ((frame.drop 12).take (beU32 ((frame.drop 4).take 4)),
        (frame.take (frame.length - 4)).drop (12 + beU32 ((frame.drop 4).take 4))) where
  prelude_le := by unfold eventstreamPreludeLen; omega
  declared := hdecl
  decodes rest := by
    -- the decoder reads only the frame's own bytes
    have htotal : beU32 ((frame ++ rest).take 4) = frame.length := by
      rw [List.take_append_of_le_length (by omega), hdecl]
    have hh : beU32 (((frame ++ rest).drop 4).take 4) = beU32 ((frame.drop 4).take 4) := by
      rw [take_drop_append (by omega)]
    have hp : beU32 (((frame ++ rest).drop 8).take 4) = crc32 ((frame ++ rest).take 8) := by
      rw [take_drop_append (by omega), List.take_append_of_le_length (by omega), hprelude]
    have hm : beU32 (((frame ++ rest).drop (frame.length - 4)).take 4) =
        crc32 ((frame ++ rest).take (frame.length - 4)) := by
      rw [take_drop_append (by omega), List.take_append_of_le_length (by omega), hmessage]
    have hlen' : ¬ (frame ++ rest).length < eventstreamPreludeLen := by
      simp only [List.length_append, eventstreamPreludeLen]
      omega
    show (if _ then _ else _) = _
    rw [if_neg hlen', if_neg (not_not.2 hp), htotal, if_neg (by omega), hh, if_neg (by omega),
      if_neg (by simp), if_neg (not_not.2 hm), List.drop_left, take_drop_append (by omega),
      List.take_append_of_le_length (by omega)]

/-! ### Chunking -/

section Chunking

variable {φ ε τ : Type} (M : MessageFrameDecoder φ μ ε)

/-- Over a stream of valid frames, each within the buffer limit, cut into body chunks in any way:
`transform` and `transform_multi` run the caller's closure on exactly the frames' messages, in
order, and send exactly the events it gives, as data frames, then the trailers, with no error;
`inspect` passes every chunk through, its closure sees the first messages in order, and sees all of
them when each chunk fits the buffer beside the stub of the frame it continues. -/
theorem aws_event_stream_chunking {frames : List (List UInt8 × μ)} {fresh : φ} {bufferLimit : Nat}
    (hwf : ∀ g ∈ frames, WellFormedFrame M fresh g.1 g.2) (hlim : ∀ g ∈ frames, g.1.length ≤ bufferLimit)
    (chunks : List (List UInt8)) (hchunks : chunks.flatten = (frames.map Prod.fst).flatten)
    (trailers : Option τ) (s : σ) (fuel : Nat) (hfuel : 2 * chunks.length + 4 ≤ fuel) :
    (∀ (f : σ → μ → σ × Option O) (toJson : O → Option (List UInt8)), ∃ outs : List (List UInt8),
      (transform M fresh bufferLimit f toJson fuel (chunks.map .data ++ trailers.toList.map .trailers) s).1 =
        outs.map .data ++ trailers.toList.map .trailers ∧
      outs.flatten = (Library.Transducer.run (transformHandler f toJson) s (frames.map Prod.snd)).2.flatten ∧
      (transform M fresh bufferLimit f toJson fuel (chunks.map .data ++ trailers.toList.map .trailers) s).2.handler =
        (Library.Transducer.run (transformHandler f toJson) s (frames.map Prod.snd)).1) ∧
    (∀ (f : σ → μ → σ × List (List UInt8 × O)) (toJson : O → Option (List UInt8)), ∃ outs : List (List UInt8),
      (transformMulti M fresh bufferLimit f toJson fuel (chunks.map .data ++ trailers.toList.map .trailers) s).1 =
        outs.map .data ++ trailers.toList.map .trailers ∧
      outs.flatten = (Library.Transducer.run (transformMultiHandler f toJson) s (frames.map Prod.snd)).2.flatten ∧
      (transformMulti M fresh bufferLimit f toJson fuel (chunks.map .data ++ trailers.toList.map .trailers)
        s).2.handler = (Library.Transducer.run (transformMultiHandler f toJson) s (frames.map Prod.snd)).1) ∧
    (∀ f : σ → μ → σ, (inspect M fresh bufferLimit f s chunks).2 = chunks ∧
      (∃ k, (inspect M fresh bufferLimit f s chunks).1.handler = ((frames.map Prod.snd).take k).foldl f s) ∧
      (ChunksFit (frames.map fun g => g.1.length) bufferLimit 0 chunks →
        (inspect M fresh bufferLimit f s chunks).1 =
          ⟨EventStreamCodec.withMaxSize fresh bufferLimit, [], false, (frames.map Prod.snd).foldl f s⟩)) := by
  have hD := decoder_frames hwf hlim
  have hstart : [] ++ chunks.flatten = ((frames.drop 0).map Prod.fst).flatten := by simpa using hchunks
  refine ⟨fun f toJson => parser_chunks hD trailers chunks hchunks s fuel hfuel,
    fun f toJson => parser_chunks hD trailers chunks hchunks s fuel hfuel,
    fun f => ⟨run_inspectChunk_snd _ chunks, ?_, fun hfit => ?_⟩⟩
  · obtain ⟨k, hk⟩ := run_inspectChunk_prefix hD chunks 0 [] s hstart
    exact ⟨k, by simpa [inspect, List.map_take] using hk⟩
  · simpa [inspect] using run_inspectChunk_all hD chunks 0 [] s hstart (stub_nil_of_wellFormed hwf) (by simpa using hfit)

def hiFrame : List UInt8 := [0, 0, 0, 20, 0, 0, 0, 0, 240, 66, 238, 43, 104, 105, 33, 10, 251, 123, 64, 90]

lemma wellFormedFrame_hiFrame : WellFormedFrame crcFrameDecoder () hiFrame ([], [104, 105, 33, 10]) :=
  wellFormedFrame_crcFrameDecoder (by decide) (by decide) (by decide) (by decide +kernel) (by decide +kernel)

/-- The frame of `hiFrame`, cut inside its prelude, with a buffer limit of 20. -/
theorem aws_event_stream_chunking_prelude_cut :
    ChunksFit [20] 20 0 [[0, 0, 0, 20, 0], [0, 0, 0, 240, 66, 238, 43, 104, 105, 33, 10, 251, 123, 64, 90]] ∧
    (inspect crcFrameDecoder () 20 (fun (l : List (List UInt8 × List UInt8)) m => l ++ [m]) []
      [[0, 0, 0, 20, 0], [0, 0, 0, 240, 66, 238, 43, 104, 105, 33, 10, 251, 123, 64, 90]]).1.handler =
      [([], [104, 105, 33, 10])] := by
  have hwf : ∀ g ∈ [(hiFrame, (([] : List UInt8), [(104 : UInt8), 105, 33, 10]))],
      WellFormedFrame crcFrameDecoder () g.1 g.2 := by
    simp only [List.mem_singleton, forall_eq]
    exact wellFormedFrame_hiFrame
  have hfit : ChunksFit [20] 20 0
      [[0, 0, 0, 20, 0], [0, 0, 0, 240, 66, 238, 43, 104, 105, 33, 10, 251, 123, 64, 90]] := by decide
  refine ⟨hfit, ?_⟩
  have h := ((aws_event_stream_chunking crcFrameDecoder (O := Unit) hwf (by decide) _ (by decide)
    (none : Option Unit) [] 8 (by decide)).2.2 fun l m => l ++ [m]).2.2 hfit
  rw [h]
  rfl

/-- Two frames `hiFrame` with a buffer limit of 24. Sent as one chunk of 40 bytes, the chunk
overflows the buffer and `inspect`'s closure sees neither message, though each frame is within the
limit; the same bytes sent frame by frame give it both. -/
theorem inspect_depends_on_chunking :
    WellFormedFrame crcFrameDecoder () hiFrame ([], [104, 105, 33, 10]) ∧ hiFrame.length ≤ 24 ∧
    (inspect crcFrameDecoder () 24 (fun (l : List (List UInt8 × List UInt8)) m => l ++ [m]) []
      [hiFrame ++ hiFrame]).1.handler = [] ∧
    (inspect crcFrameDecoder () 24 (fun (l : List (List UInt8 × List UInt8)) m => l ++ [m]) []
      [hiFrame, hiFrame]).1.handler = [([], [104, 105, 33, 10]), ([], [104, 105, 33, 10])] :=
  ⟨wellFormedFrame_hiFrame, by decide,
    inspect_two_frames wellFormedFrame_hiFrame (by decide) (by decide) _ []⟩

end Chunking

end AgentGateway.Llm.AwsEventStream
