import AgentGateway.Llm.StreamingGuardrails

/-! `TransformedBody` of `llm/parse/transform.rs`: the handler sees exactly the frames' items
however the upstream bytes are cut. -/

namespace AgentGateway.Llm.Transform

open AgentGateway.Llm.StreamingGuardrails (BodyFrame)

/-- A `Decoder`: from its state and the buffer, an item or `none`, with its new state and what
is left of the buffer. An item takes at least one byte, which is what ends the decode loop. -/
structure Decoder (δ ι ε : Type) where
  decode : δ → List UInt8 → Except ε (Option ι × δ × List UInt8)
  /-- The error `decode_eof` converts from `io::Error` "bytes remaining on stream". -/
  bytesRemaining : ε
  decode_shrinks : ∀ {d buf x d' buf'}, decode d buf = .ok (some x, d', buf') → buf'.length < buf.length

namespace Decoder

variable {δ ι ε : Type}

def decodeEof (D : Decoder δ ι ε) (d : δ) (buf : List UInt8) : Except ε (Option ι × δ × List UInt8) :=
  match D.decode d buf with
  | .ok (none, d', buf') => if buf'.isEmpty then .ok (none, d', buf') else .error D.bytesRemaining
  | r => r

lemma decodeEof_shrinks {D : Decoder δ ι ε} {d : δ} {buf : List UInt8} {x : ι} {d' : δ} {buf' : List UInt8}
    (h : D.decodeEof d buf = .ok (some x, d', buf')) : buf'.length < buf.length := by
  unfold decodeEof at h
  split at h
  · split_ifs at h
    cases h
  · exact D.decode_shrinks h

end Decoder

inductive Out (ε τ : Type) where
  | data (bytes : List UInt8)
  | trailers (t : τ)
  | error (e : ε)

structure TransformedBody (δ σ τ : Type) where
  body : List (BodyFrame UInt8 τ)
  decoder : δ
  decodeBuffer : List UInt8
  bufferedTrailers : Option τ
  handler : σ
  finished : Bool

variable {δ ι ε σ τ : Type} (D : Decoder δ ι ε) (handle : σ → ι → σ × List (List UInt8))

-- the linter does not see the use of the match hypothesis in the termination proof
set_option linter.unusedVariables false in
/-- The `try_decode` closure: decode items until the decoder asks for more, running the handler on
each and appending what it emits to the encode buffer. -/
def tryDecode (finished : Bool) (d : δ) (buf : List UInt8) (h : σ) (encodeBuf : List UInt8) :
    Except ε (δ × List UInt8 × σ × List UInt8) :=
  match hd : (if finished then D.decodeEof d buf else D.decode d buf) with
  | .ok (some item, d', buf') =>
    tryDecode finished d' buf' (handle h item).1 (encodeBuf ++ (handle h item).2.flatten)
  | .ok (none, d', buf') => .ok (d', buf', h, encodeBuf)
  | .error e => .error e
termination_by buf.length
decreasing_by
  split at hd
  · exact Decoder.decodeEof_shrinks hd
  · exact D.decode_shrinks hd

def parser (body : List (BodyFrame UInt8 τ)) (decoder : δ) (handler : σ) : TransformedBody δ σ τ :=
  ⟨body, decoder, [], none, handler, false⟩

/-- `poll_frame`: `some (some out)` is a frame, `some none` the end of the body, `none` a
`Pending` that has woken itself. -/
def poll (b : TransformedBody δ σ τ) : Option (Option (Out ε τ)) × TransformedBody δ σ τ :=
  if b.finished then
    match b.bufferedTrailers with
    | some t => (some (some (.trailers t)), { b with bufferedTrailers := none })
    | none => (some none, b)
  else
    match tryDecode D handle false b.decoder b.decodeBuffer b.handler [] with
    | .error e => (some (some (.error e)), b)
    | .ok (d, buf, h, out) =>
      let b := { b with decoder := d, decodeBuffer := buf, handler := h }
      if !out.isEmpty then (some (some (.data out)), b)
      else
        match b.body with
        | .data bytes :: body => (none, { b with body, decodeBuffer := b.decodeBuffer ++ bytes })
        | .trailers t :: body => (none, { b with body, bufferedTrailers := some t })
        | [] =>
          -- the upstream body has ended: one more decode, at end of stream
          let b := { b with finished := true }
          match tryDecode D handle true b.decoder b.decodeBuffer b.handler [] with
          | .error e => (some (some (.error e)), b)
          | .ok (d, buf, h, out) =>
            let b := { b with decoder := d, decodeBuffer := buf, handler := h }
            if !out.isEmpty then (some (some (.data out)), b)
            else
              match b.bufferedTrailers with
              | some t => (some (some (.trailers t)), { b with bufferedTrailers := none })
              | none => (some none, b)

/-- What the body yields over `fuel` polls, up to its end or its first error, with the body after
them. -/
def run : Nat → TransformedBody δ σ τ → List (Out ε τ) × TransformedBody δ σ τ
  | 0, b => ([], b)
  | fuel + 1, b =>
    match poll D handle b with
    | (some none, b') => ([], b')
    | (some (some (.error e)), b') => ([.error e], b')
    | (some (some out), b') => (out :: (run fuel b').1, (run fuel b').2)
    | (none, b') => run fuel b'

/-! ### Decoding a stream of frames -/

section Frames

variable {D handle} {d0 : δ} {frames : List (List UInt8 × ι)}

/-- What is left of a stream after whole frames: nothing once every frame is read, or a proper
prefix of the next frame. -/
def Stub : List (List UInt8 × ι) → List UInt8 → Prop
  | [], p => p = []
  | f :: _, p => p <+: f.1 ∧ p ≠ f.1

/-- The decoder reads a stream as the concatenation of the frames' bytes: from its state `d0` it
decodes a buffer that starts with a whole frame into the frame's item, leaving `d0` and the rest
of the buffer, and waits, changing nothing, on a proper prefix of a frame. -/
structure Decoder.Frames (D : Decoder δ ι ε) (d0 : δ) (frames : List (List UInt8 × ι)) : Prop where
  complete : ∀ f ∈ frames, ∀ rest, D.decode d0 (f.1 ++ rest) = .ok (some f.2, d0, rest)
  incomplete : ∀ f ∈ frames, ∀ p, p <+: f.1 → p ≠ f.1 → D.decode d0 p = .ok (none, d0, p)
  empty : D.decode d0 [] = .ok (none, d0, [])

lemma Decoder.Frames.tail {f : List UInt8 × ι} (hD : D.Frames d0 (f :: frames)) : D.Frames d0 frames :=
  ⟨fun g hg => hD.complete g (List.mem_cons_of_mem f hg), fun g hg => hD.incomplete g (List.mem_cons_of_mem f hg),
    hD.empty⟩

lemma Decoder.Frames.drop (hD : D.Frames d0 frames) (r : Nat) : D.Frames d0 (frames.drop r) :=
  ⟨fun g hg => hD.complete g (List.mem_of_mem_drop hg), fun g hg => hD.incomplete g (List.mem_of_mem_drop hg),
    hD.empty⟩

lemma Decoder.Frames.decode_stub (hD : D.Frames d0 frames) {p : List UInt8} (hp : Stub frames p) :
    D.decode d0 p = .ok (none, d0, p) := by
  cases frames with
  | nil =>
    cases hp
    exact hD.empty
  | cons f frames => exact hD.incomplete f List.mem_cons_self p hp.1 hp.2

lemma Stub.eq_nil {p : List UInt8} (hp : Stub frames p) (h : p = (frames.map Prod.fst).flatten) :
    frames = [] ∧ p = [] := by
  cases frames with
  | nil => exact ⟨rfl, hp⟩
  | cons f frames =>
    exfalso
    obtain ⟨⟨t, ht⟩, hne⟩ := hp
    have hlen := congrArg List.length h
    have hlen' := congrArg List.length ht
    simp only [List.map_cons, List.flatten_cons, List.length_append] at hlen hlen'
    exact hne (List.IsPrefix.eq_of_length ⟨t, ht⟩ (by omega))

lemma Stub.length_lt {f : List UInt8 × ι} {p : List UInt8} (hp : Stub (f :: frames) p) : p.length < f.1.length :=
  Nat.lt_of_le_of_ne hp.1.length_le fun h => hp.2 (hp.1.eq_of_length h)

lemma prefix_append_cases {l a b : List UInt8} (h : l <+: a ++ b) :
    (∃ l', l = a ++ l' ∧ l' <+: b) ∨ (l <+: a ∧ l ≠ a) := by
  rcases List.prefix_or_prefix_of_prefix h (List.prefix_append a b) with hla | hal
  · by_cases heq : l = a
    · exact .inl ⟨[], by simp [heq], List.nil_prefix⟩
    · exact .inr ⟨hla, heq⟩
  · obtain ⟨l', rfl⟩ := hal
    exact .inl ⟨l', rfl, (List.prefix_append_right_inj a).1 h⟩

lemma tryDecode_some {d d' : δ} {buf buf' : List UInt8} {x : ι} (hd : D.decode d buf = .ok (some x, d', buf'))
    (s : σ) (acc : List UInt8) :
    tryDecode D handle false d buf s acc = tryDecode D handle false d' buf' (handle s x).1 (acc ++ (handle s x).2.flatten) := by
  rw [tryDecode]
  split <;> rename_i hd' <;> simp only [Bool.false_eq_true, ↓reduceIte, hd, Except.ok.injEq, Prod.mk.injEq,
    Option.some.injEq, reduceCtorEq, false_and] at hd'
  obtain ⟨rfl, rfl, rfl⟩ := hd'
  rfl

lemma tryDecode_none {d d' : δ} {buf buf' : List UInt8} (finished : Bool)
    (hd : (if finished then D.decodeEof d buf else D.decode d buf) = .ok (none, d', buf')) (s : σ) (acc : List UInt8) :
    tryDecode D handle finished d buf s acc = .ok (d', buf', s, acc) := by
  rw [tryDecode]
  split <;> rename_i hd' <;> rw [hd] at hd' <;> simp only [Except.ok.injEq, Prod.mk.injEq, reduceCtorEq, false_and]
    at hd'
  obtain ⟨-, rfl, rfl⟩ := hd'
  rfl

lemma tryDecode_frames (handle : σ → ι → σ × List (List UInt8)) (hD : D.Frames d0 frames) :
    ∀ (buf : List UInt8) (s : σ) (acc : List UInt8), buf <+: (frames.map Prod.fst).flatten →
      ∃ r p, buf = ((frames.take r).map Prod.fst).flatten ++ p ∧ Stub (frames.drop r) p ∧
        tryDecode D handle false d0 buf s acc =
          .ok (d0, p, (Library.Transducer.run handle s ((frames.take r).map Prod.snd)).1,
            acc ++ (Library.Transducer.run handle s ((frames.take r).map Prod.snd)).2.flatten) := by
  induction frames with
  | nil =>
    intro buf s acc hbuf
    obtain rfl : buf = [] := List.prefix_nil.1 hbuf
    exact ⟨0, [], rfl, rfl, by rw [tryDecode_none false hD.empty]; simp⟩
  | cons f frames ih =>
    intro buf s acc hbuf
    rw [List.map_cons, List.flatten_cons] at hbuf
    rcases prefix_append_cases hbuf with ⟨buf', rfl, hbuf'⟩ | hstub
    · -- the first frame is whole: decode it and go on with the rest
      obtain ⟨r, p, hbuf, hp, ht⟩ := ih hD.tail buf' (handle s f.2).1 (acc ++ (handle s f.2).2.flatten) hbuf'
      refine ⟨r + 1, p, by simp [hbuf], hp, ?_⟩
      rw [tryDecode_some (hD.complete f List.mem_cons_self buf'), ht]
      simp [Library.Transducer.run_cons]
    · -- the buffer stops inside the first frame
      exact ⟨0, buf, by simp, hstub, by rw [tryDecode_none false (hD.decode_stub hstub)]; simp⟩

end Frames

/-! ### One poll at a time -/

section Polls

variable {D handle} {b b' : TransformedBody δ σ τ} {d d' : δ} {buf buf' : List UInt8} {s s' : σ}
  {out : List UInt8}

lemma poll_data (hb : b.finished = false)
    (ht : tryDecode D handle false b.decoder b.decodeBuffer b.handler [] = .ok (d, buf, s, out)) (hout : out ≠ []) :
    poll D handle b = (some (some (.data out)), { b with decoder := d, decodeBuffer := buf, handler := s }) := by
  unfold poll
  rw [if_neg (by simp [hb]), ht]
  dsimp only
  rw [if_pos (by simpa using hout)]

lemma poll_pull {c : List UInt8} {rest : List (BodyFrame UInt8 τ)} (hb : b.finished = false)
    (ht : tryDecode D handle false b.decoder b.decodeBuffer b.handler [] = .ok (d, buf, s, []))
    (hbody : b.body = .data c :: rest) :
    poll D handle b = (none, { b with decoder := d, decodeBuffer := buf ++ c, handler := s, body := rest }) := by
  unfold poll
  rw [if_neg (by simp [hb]), ht]
  dsimp only
  rw [if_neg (by simp), hbody]

lemma poll_pull_trailers {t : τ} {rest : List (BodyFrame UInt8 τ)} (hb : b.finished = false)
    (ht : tryDecode D handle false b.decoder b.decodeBuffer b.handler [] = .ok (d, buf, s, []))
    (hbody : b.body = .trailers t :: rest) :
    poll D handle b =
      (none, { b with decoder := d, decodeBuffer := buf, handler := s, body := rest, bufferedTrailers := some t }) := by
  unfold poll
  rw [if_neg (by simp [hb]), ht]
  dsimp only
  rw [if_neg (by simp), hbody]

lemma poll_eof (hb : b.finished = false)
    (ht : tryDecode D handle false b.decoder b.decodeBuffer b.handler [] = .ok (d, buf, s, []))
    (hbody : b.body = []) (ht' : tryDecode D handle true d buf s [] = .ok (d', buf', s', [])) :
    poll D handle b = match b.bufferedTrailers with
      | some t => (some (some (.trailers t)),
          { b with decoder := d', decodeBuffer := buf', handler := s', finished := true, bufferedTrailers := none })
      | none => (some none, { b with decoder := d', decodeBuffer := buf', handler := s', finished := true }) := by
  unfold poll
  rw [if_neg (by simp [hb]), ht]
  dsimp only
  rw [if_neg (by simp), hbody]
  dsimp only
  rw [ht']
  dsimp only
  rw [if_neg (by simp)]

lemma poll_finished (hb : b.finished = true) (htr : b.bufferedTrailers = none) : poll D handle b = (some none, b) := by
  unfold poll
  rw [if_pos hb, htr]

lemma run_pending (h : poll D handle b = (none, b')) (fuel : Nat) : run D handle (fuel + 1) b = run D handle fuel b' := by
  rw [run, h]

lemma run_data (h : poll D handle b = (some (some (.data out)), b')) (fuel : Nat) :
    run D handle (fuel + 1) b = (.data out :: (run D handle fuel b').1, (run D handle fuel b').2) := by
  rw [run, h]

lemma run_trailers {t : τ} (h : poll D handle b = (some (some (.trailers t)), b')) (fuel : Nat) :
    run D handle (fuel + 1) b = (.trailers t :: (run D handle fuel b').1, (run D handle fuel b').2) := by
  rw [run, h]

lemma run_done (h : poll D handle b = (some none, b')) (fuel : Nat) : run D handle (fuel + 1) b = ([], b') := by
  rw [run, h]

end Polls

/-! ### Chunking does not matter -/

section Chunks

variable {D handle} {d0 : δ} {frames : List (List UInt8 × ι)}

lemma tryDecode_eof_nil (hD : D.decode d0 [] = .ok (none, d0, [])) (s : σ) (acc : List UInt8) :
    tryDecode D handle true d0 [] s acc = .ok (d0, [], s, acc) := by
  refine tryDecode_none true ?_ s acc
  simp [Decoder.decodeEof, hD]

lemma flatten_map_take_drop (k : Nat) (l : List (List UInt8 × ι)) :
    (l.map Prod.fst).flatten = ((l.take k).map Prod.fst).flatten ++ ((l.drop k).map Prod.fst).flatten := by
  rw [← List.flatten_append, ← List.map_append, List.take_append_drop]

lemma rest_after_frames {r k : Nat} {buf p rest : List UInt8}
    (hbuf : buf ++ rest = ((frames.drop r).map Prod.fst).flatten)
    (hsplit : buf = (((frames.drop r).take k).map Prod.fst).flatten ++ p) :
    p ++ rest = ((frames.drop (r + k)).map Prod.fst).flatten := by
  rw [hsplit, flatten_map_take_drop k (frames.drop r), List.append_assoc] at hbuf
  rw [← List.drop_drop]
  exact List.append_cancel_left hbuf

lemma run_tail (hD : D.decode d0 [] = .ok (none, d0, [])) (trailers : Option τ) {b : TransformedBody δ σ τ} {s : σ}
    (hb : b.finished = false) (htr : b.bufferedTrailers = none)
    (hbody : b.body = trailers.toList.map .trailers)
    (ht : tryDecode D handle false b.decoder b.decodeBuffer b.handler [] = .ok (d0, [], s, []))
    (fuel : Nat) (hfuel : 3 ≤ fuel) :
    (run D handle fuel b).1 = trailers.toList.map .trailers ∧ (run D handle fuel b).2.handler = s := by
  obtain ⟨fuel, rfl⟩ : ∃ n, fuel = n + 1 := ⟨fuel - 1, by omega⟩
  cases trailers with
  | none =>
    have hp := poll_eof hb ht hbody (tryDecode_eof_nil hD s [])
    rw [htr] at hp
    rw [run_done hp]
    exact ⟨rfl, rfl⟩
  | some t =>
    -- pull the trailers, decode nothing at the end, send them, and end
    obtain ⟨fuel, rfl⟩ : ∃ n, fuel = n + 1 := ⟨fuel - 1, by omega⟩
    obtain ⟨fuel, rfl⟩ : ∃ n, fuel = n + 1 := ⟨fuel - 1, by omega⟩
    have hbody' : b.body = [.trailers t] := hbody
    rw [run_pending (poll_pull_trailers hb ht hbody'),
      run_trailers (poll_eof (b := ⟨[], d0, [], some t, s, b.finished⟩) hb (tryDecode_none false hD s []) rfl
        (tryDecode_eof_nil hD s [])),
      run_done (poll_finished rfl rfl)]
    exact ⟨rfl, rfl⟩

lemma run_frames (hD : D.Frames d0 frames) (trailers : Option τ) :
    ∀ (cs : List (List UInt8)) (r : Nat) (buf : List UInt8) (s : σ) (fuel : Nat),
      buf ++ cs.flatten = ((frames.drop r).map Prod.fst).flatten → 2 * cs.length + 4 ≤ fuel →
      ∃ outs : List (List UInt8),
        (run D handle fuel ⟨cs.map .data ++ trailers.toList.map .trailers, d0, buf, none, s, false⟩).1 =
          outs.map .data ++ trailers.toList.map .trailers ∧
        outs.flatten = (Library.Transducer.run handle s ((frames.drop r).map Prod.snd)).2.flatten ∧
        (run D handle fuel ⟨cs.map .data ++ trailers.toList.map .trailers, d0, buf, none, s, false⟩).2.handler =
          (Library.Transducer.run handle s ((frames.drop r).map Prod.snd)).1 := by
  intro cs
  induction cs with
  | nil =>
    intro r buf s fuel hbuf hfuel
    rw [List.flatten_nil, List.append_nil] at hbuf
    obtain ⟨k, p, hsplit, hp, ht⟩ := tryDecode_frames handle (hD.drop r) buf s [] (hbuf ▸ List.prefix_refl buf)
    -- the whole rest of the stream is buffered, so its stub is empty and every frame decodes
    have hrest : p = (((frames.drop r).drop k).map Prod.fst).flatten := by
      rw [hbuf, flatten_map_take_drop k (frames.drop r)] at hsplit
      exact (List.append_cancel_left hsplit).symm
    obtain ⟨hnil, rfl⟩ := hp.eq_nil hrest
    have hall : (frames.drop r).take k = frames.drop r := by
      rw [← List.take_append_drop k (frames.drop r), hnil, List.append_nil, List.take_take, Nat.min_self]
    rw [hall] at ht
    set final := Library.Transducer.run handle s ((frames.drop r).map Prod.snd)
    have hempty : tryDecode D handle false d0 [] final.1 [] = .ok (d0, [], final.1, []) :=
      tryDecode_none false hD.empty final.1 []
    by_cases hout : final.2.flatten = []
    · rw [List.nil_append, hout] at ht
      obtain ⟨hrun, hh⟩ := run_tail (b := ⟨[].map .data ++ trailers.toList.map .trailers, d0, buf, none, s, false⟩)
        hD.empty trailers rfl rfl (by simp) ht fuel (by omega)
      exact ⟨[], by simpa using hrun, by simp [hout], hh⟩
    · obtain ⟨fuel, rfl⟩ : ∃ n, fuel = n + 1 := ⟨fuel - 1, by omega⟩
      rw [List.nil_append] at ht
      rw [run_data (poll_data rfl ht hout)]
      obtain ⟨hrun, hh⟩ := run_tail (b := ⟨trailers.toList.map .trailers, d0, [], none, final.1, false⟩) hD.empty
        trailers rfl rfl rfl hempty fuel (by omega)
      exact ⟨[final.2.flatten], by simp [hrun], by simp, hh⟩
  | cons c cs ih =>
    intro r buf s fuel hbuf hfuel
    have hpre : buf <+: ((frames.drop r).map Prod.fst).flatten := ⟨c ++ cs.flatten, by rw [← hbuf]; simp⟩
    obtain ⟨k, p, hsplit, hp, ht⟩ := tryDecode_frames handle (hD.drop r) buf s [] hpre
    -- the stub of the next frame and the chunks to come make up the rest of the stream
    have hnext : p ++ c ++ cs.flatten = ((frames.drop (r + k)).map Prod.fst).flatten := by
      rw [List.append_assoc, ← List.flatten_cons]
      exact rest_after_frames hbuf hsplit
    have hsplitRun : (frames.drop r).map Prod.snd =
        ((frames.drop r).take k).map Prod.snd ++ (frames.drop (r + k)).map Prod.snd := by
      rw [← List.map_append, ← List.drop_drop, List.take_append_drop]
    obtain ⟨fuel, rfl⟩ : ∃ n, fuel = n + 2 := ⟨fuel - 2, by simp at hfuel; omega⟩
    rw [hsplitRun, Library.Transducer.run_append]
    rw [List.nil_append] at ht
    generalize Library.Transducer.run handle s (((frames.drop r).take k).map Prod.snd) = first at ht ⊢
    obtain ⟨s₁, o₁⟩ := first
    dsimp only at ht ⊢
    have hstub : tryDecode D handle false d0 p s₁ [] = .ok (d0, p, s₁, []) :=
      tryDecode_none false ((hD.drop r).drop k |>.decode_stub hp) s₁ []
    by_cases hout : o₁.flatten = []
    · -- nothing to send: the same poll pulls the next chunk
      rw [hout] at ht
      obtain ⟨outs, hrun, hflat, hh⟩ := ih (r + k) (p ++ c) s₁ (fuel + 1) hnext (by simp at hfuel; omega)
      rw [run_pending (poll_pull rfl ht rfl)]
      exact ⟨outs, hrun, by rw [List.flatten_append, hout, List.nil_append, hflat], hh⟩
    · -- send the decoded output, then pull the next chunk on the following poll
      obtain ⟨outs, hrun, hflat, hh⟩ := ih (r + k) (p ++ c) s₁ fuel hnext (by simp at hfuel; omega)
      rw [run_data (poll_data rfl ht hout), run_pending (poll_pull rfl hstub rfl)]
      exact ⟨o₁.flatten :: outs, by simp [hrun], by rw [List.flatten_cons, hflat, List.flatten_append], hh⟩

/-- However the stream's bytes are cut into body chunks, the body runs the handler on exactly the
frames' items, in order, and sends exactly what the handler emits, as data frames, then the
trailers. -/
theorem parser_chunks (hD : D.Frames d0 frames) (trailers : Option τ) (chunks : List (List UInt8))
    (hchunks : chunks.flatten = (frames.map Prod.fst).flatten) (s : σ) (fuel : Nat)
    (hfuel : 2 * chunks.length + 4 ≤ fuel) :
    ∃ outs : List (List UInt8),
      (run D handle fuel (parser (chunks.map .data ++ trailers.toList.map .trailers) d0 s)).1 =
        outs.map .data ++ trailers.toList.map .trailers ∧
      outs.flatten = (Library.Transducer.run handle s (frames.map Prod.snd)).2.flatten ∧
      (run D handle fuel (parser (chunks.map .data ++ trailers.toList.map .trailers) d0 s)).2.handler =
        (Library.Transducer.run handle s (frames.map Prod.snd)).1 :=
  run_frames hD trailers chunks 0 [] s fuel (by simpa using hchunks) hfuel

end Chunks

end AgentGateway.Llm.Transform
