import AgentGateway.Realtime.GuardedProxy
import AgentGateway.Library.Json

/-! `GuardedSseBody` of `llm/policy/streaming_guardrails.rs`; the SSE decoder, the delta
extractor and the window evaluator are parameters. -/

namespace AgentGateway.Llm.StreamingGuardrails

open AgentGateway.Realtime.GuardedProxy Library.Serde

inductive BodyFrame (β τ : Type) where
  | data (bytes : List β)
  | trailers (t : τ)
  deriving DecidableEq

/-- What the guarded body yields: a data frame, a trailers frame, or the `guardrail_blocked` event
made from a rejection body. -/
inductive Out (β τ body : Type) where
  | data (bytes : List β)
  | trailers (t : τ)
  | blocked (body : body)
  deriving DecidableEq

inductive GuardedBodyState (β body : Type) where
  | buffering
  | evaluating (window : String) (eof : Bool)
  | flushing (queue : List (List β)) (eof : Bool)
  | blocked (body : body)
  | done
  deriving DecidableEq

/-- The SSE decoder with its decode buffer: `withMaxSize` is a fresh one; `decode` appends bytes
and decodes until it needs more (`some` decoder) or fails (`none`), with the frames it decoded on
the way; `decodeEof` decodes what is left at the end of the stream. -/
structure SseDecoder (β δ φ : Type) where
  withMaxSize : Nat → δ
  decode : δ → List β → List φ × Option δ
  decodeEof : δ → List φ

inductive SseFrame (β : Type) where
  | event (data : List β)
  | other
  deriving DecidableEq

structure GuardedSseBody (β τ δ body : Type) where
  inner : List (BodyFrame β τ)
  evalThreshold : Nat
  bufferLimit : Nat
  heldFrames : List (List β)
  heldBytes : Nat
  pendingText : String
  overlapTail : String
  sseDecoder : δ
  state : GuardedBodyState β body

/-- `GuardedSseBody::extract_text_delta`, with `fromSlice` serde_json's `from_slice::<Value>`: the text
delta of an event whose data is JSON in the OpenAI responses, OpenAI completions or Anthropic
messages form, tried in that order. -/
def GuardedSseBody.extractTextDelta {ε : Type} (fromSlice : List Char → Except ε Json) :
    SseFrame Char → Option String
  | .other => none
  | .event data =>
    if data = "[DONE]".toList then none
    else
      match fromSlice data with
      | .error _ => none
      | .ok v =>
        let responses :=
          if (v.get "type".toList).bind Json.asStr = some "response.output_text.delta".toList then
            (v.get "delta".toList).bind Json.asStr
          else none
        let completions := ((((v.get "choices".toList).bind (·.index 0)).bind (·.get "delta".toList)).bind
          (·.get "content".toList)).bind Json.asStr
        let messages := ((v.get "delta".toList).bind (·.get "text".toList)).bind Json.asStr
        (responses <|> completions <|> messages).map String.ofList

variable {β τ δ φ body : Type}

section Body

variable (dec : SseDecoder β δ φ) (extractTextDelta : φ → Option String)
  (evaluateWindow : String → Option body)

def GuardedSseBody.withThreshold (inner : List (BodyFrame β τ)) (bufferLimit evalThreshold : Nat) :
    GuardedSseBody β τ δ body :=
  ⟨inner, evalThreshold, bufferLimit, [], 0, "", "", dec.withMaxSize bufferLimit, .buffering⟩

def pushDeltas (pendingText : String) (frames : List φ) : String :=
  frames.foldl (fun acc f => match extractTextDelta f with
    | some delta => acc ++ delta
    | none => acc) pendingText

/-- One iteration of the loop in `poll_frame`: `some (some out)` returns a frame, `some none`
ends the stream, and `none` goes round the loop again. -/
def step (b : GuardedSseBody β τ δ body) :
    GuardedSseBody β τ δ body × Option (Option (Out β τ body)) :=
  match b.state with
  | .flushing queue eof =>
    match queue with
    | frame :: queue => ({ b with state := .flushing queue eof }, some (some (.data frame)))
    | [] => if eof then ({ b with state := .done }, some none) else ({ b with state := .buffering }, none)
  | .blocked body => ({ b with state := .done }, some (some (.blocked body)))
  | .done => (b, some none)
  | .evaluating window eof =>
    match evaluateWindow window with
    | some body => ({ b with heldFrames := [], heldBytes := 0, state := .blocked body }, none)
    | none => ({ b with heldFrames := [], heldBytes := 0, state := .flushing b.heldFrames eof }, none)
  | .buffering =>
    match b.inner with
    -- a frame that is not data goes out at once
    | .trailers t :: inner => ({ b with inner }, some (some (.trailers t)))
    | .data raw :: inner =>
      let heldBytes := b.heldBytes + raw.length
      let heldFrames := b.heldFrames ++ [raw]
      let (frames, decoder) := dec.decode b.sseDecoder raw
      let pendingText := pushDeltas extractTextDelta b.pendingText frames
      -- a decode error drops the decode buffer and starts a fresh decoder
      let sseDecoder := decoder.getD (dec.withMaxSize b.bufferLimit)
      if b.evalThreshold ≤ pendingText.utf8ByteSize || b.bufferLimit ≤ heldBytes then
        if pendingText.isEmpty then
          ({ b with
              inner := inner, heldFrames := [], heldBytes := 0, pendingText := pendingText,
              sseDecoder := sseDecoder, state := .flushing heldFrames false }, none)
        else
          let window := b.overlapTail ++ pendingText
          ({ b with
              inner := inner, heldFrames := heldFrames, heldBytes := heldBytes, pendingText := "",
              sseDecoder := sseDecoder, overlapTail := tailChars window overlapBytes,
              state := .evaluating window false }, none)
      else
        ({ b with
            inner := inner, heldFrames := heldFrames, heldBytes := heldBytes,
            pendingText := pendingText, sseDecoder := sseDecoder }, none)
    | [] =>
      -- the decoder is not used after the end of the stream
      let pendingText := pushDeltas extractTextDelta b.pendingText (dec.decodeEof b.sseDecoder)
      if pendingText.isEmpty then
        ({ b with
            heldFrames := [], heldBytes := 0, pendingText := pendingText,
            state := .flushing b.heldFrames true }, none)
      else
        let window := b.overlapTail ++ pendingText
        ({ b with pendingText := "", overlapTail := "", state := .evaluating window true }, none)

def run : Nat → GuardedSseBody β τ δ body → List (Out β τ body)
  | 0, _ => []
  | fuel + 1, b =>
    match step dec extractTextDelta evaluateWindow b with
    | (_, some none) => []
    | (b', some (some out)) => out :: run fuel b'
    | (b', none) => run fuel b'

end Body

/-! ## What the body releases

`Released emitted read b` ties a body to the upstream data frames `U`: `read` were taken from
upstream, `emitted` were yielded, and the rest are queued or held, in upstream order, until a
window blocks. The deltas decoded from `read` are those that lie in a window that passed, followed by
those still pending in the body. -/

section Released

variable (dec : SseDecoder β δ φ) (extractTextDelta : φ → Option String)
  (evaluateWindow : String → Option body)

def dataFrames (inner : List (BodyFrame β τ)) : List (List β) :=
  inner.filterMap fun
    | .data raw => some raw
    | .trailers _ => none

def dataOuts (outs : List (Out β τ body)) : List (List β) :=
  outs.filterMap fun
    | .data raw => some raw
    | _ => none

def decodeFrames (limit : Nat) : δ → List (List β) → List String × δ
  | d, [] => ([], d)
  | d, raw :: rest =>
    let r := dec.decode d raw
    let next := decodeFrames limit (r.2.getD (dec.withMaxSize limit)) rest
    (r.1.filterMap extractTextDelta ++ next.1, next.2)

def Evaluated (d : String) : Prop := ∃ w, evaluateWindow w = none ∧ Within d w

def DeltasPassed (limit : Nat) (frames : List (List β)) : Prop :=
  ∀ d ∈ (decodeFrames dec extractTextDelta limit (dec.withMaxSize limit) frames).1, d ≠ "" →
    Evaluated evaluateWindow d

def queued (b : GuardedSseBody β τ δ body) : List (List β) :=
  match b.state with
  | .flushing queue _ => queue
  | _ => []

def live (b : GuardedSseBody β τ δ body) : Bool :=
  match b.state with
  | .blocked _ | .done => false
  | _ => true

/-- Where the pending deltas are: in the pending text, in the window being evaluated, or, while
flushing, none left. -/
def PendingIn (b : GuardedSseBody β τ δ body) (pending : List String) : Prop :=
  match b.state with
  | .buffering => ∀ d ∈ pending, Within d b.pendingText
  | .evaluating window _ => ∀ d ∈ pending, Within d window
  | .flushing _ _ => pending = []
  | _ => True

structure Released (U emitted read : List (List β)) (b : GuardedSseBody β τ δ body) : Prop where
  rest : read ++ dataFrames b.inner = U
  decoder : b.sseDecoder =
    (decodeFrames dec extractTextDelta b.bufferLimit (dec.withMaxSize b.bufferLimit) read).2
  prefix_read : emitted <+: read
  held : live b = true → emitted ++ queued b ++ b.heldFrames = read
  deltas : ∃ evaluated pending,
    (decodeFrames dec extractTextDelta b.bufferLimit (dec.withMaxSize b.bufferLimit) read).1 =
      evaluated ++ pending ∧
    (∀ d ∈ evaluated, d ≠ "" → Evaluated evaluateWindow d) ∧ PendingIn b pending

def dataOut : Option (Option (Out β τ body)) → List (List β)
  | some (some (.data raw)) => [raw]
  | _ => []

/-- After one step the invariant holds with what was yielded, and a data frame is yielded only once
the deltas of the frames up to it have passed. -/
def StepOk (U emitted : List (List β)) (b : GuardedSseBody β τ δ body)
    (r : GuardedSseBody β τ δ body × Option (Option (Out β τ body))) : Prop :=
  (∃ read', Released dec extractTextDelta evaluateWindow U (emitted ++ dataOut r.2) read' r.1) ∧
    ∀ raw, r.2 = some (some (.data raw)) →
      DeltasPassed dec extractTextDelta evaluateWindow b.bufferLimit (emitted ++ [raw])

variable {dec extractTextDelta evaluateWindow}

lemma pushDeltas_cons (p : String) (f : φ) (fs : List φ) :
    pushDeltas extractTextDelta p (f :: fs) =
      pushDeltas extractTextDelta (match extractTextDelta f with
        | some delta => p ++ delta
        | none => p) fs := rfl

lemma within_pushDeltas {d p : String} (h : Within d p) (frames : List φ) :
    Within d (pushDeltas extractTextDelta p frames) := by
  induction frames generalizing p with
  | nil => exact h
  | cons f fs ih =>
    rw [pushDeltas_cons]
    cases extractTextDelta f with
    | some delta => exact ih (h.append_right delta)
    | none => exact ih h

lemma within_pushDeltas_of_mem {d : String} {frames : List φ} (h : d ∈ frames.filterMap extractTextDelta)
    (p : String) : Within d (pushDeltas extractTextDelta p frames) := by
  induction frames generalizing p with
  | nil => simp at h
  | cons f fs ih =>
    rw [pushDeltas_cons]
    rw [List.filterMap_cons] at h
    cases hf : extractTextDelta f with
    | none =>
      rw [hf] at h
      exact ih h _
    | some delta =>
      rw [hf] at h
      rcases List.mem_cons.mp h with rfl | h
      · exact within_pushDeltas (Within.right p d) fs
      · exact ih h _

lemma decodeFrames_append (limit : Nat) (d : δ) (A B : List (List β)) :
    decodeFrames dec extractTextDelta limit d (A ++ B) =
      ((decodeFrames dec extractTextDelta limit d A).1 ++
        (decodeFrames dec extractTextDelta limit (decodeFrames dec extractTextDelta limit d A).2 B).1,
       (decodeFrames dec extractTextDelta limit (decodeFrames dec extractTextDelta limit d A).2 B).2) := by
  induction A generalizing d with
  | nil => simp [decodeFrames]
  | cons raw A ih => simp [decodeFrames, ih, List.append_assoc]

lemma decodeFrames_snoc (limit : Nat) (d : δ) (A : List (List β)) (raw : List β) :
    decodeFrames dec extractTextDelta limit d (A ++ [raw]) =
      ((decodeFrames dec extractTextDelta limit d A).1 ++
        (dec.decode (decodeFrames dec extractTextDelta limit d A).2 raw).1.filterMap extractTextDelta,
       (dec.decode (decodeFrames dec extractTextDelta limit d A).2 raw).2.getD (dec.withMaxSize limit)) := by
  simp [decodeFrames_append, decodeFrames]

lemma decodeFrames_mono (limit : Nat) (d : δ) {A B : List (List β)} (h : A <+: B) :
    (decodeFrames dec extractTextDelta limit d A).1 <+: (decodeFrames dec extractTextDelta limit d B).1 := by
  obtain ⟨C, rfl⟩ := h
  rw [decodeFrames_append]
  exact List.prefix_append _ _

section Step

variable {U emitted read : List (List β)} {b : GuardedSseBody β τ δ body}

lemma Released.stepFlushing (h : Released dec extractTextDelta evaluateWindow U emitted read b)
    {queue : List (List β)} {eof : Bool} (hs : b.state = .flushing queue eof) :
    StepOk dec extractTextDelta evaluateWindow U emitted b (step dec extractTextDelta evaluateWindow b) := by
  obtain ⟨ev, pend, hdel, hev, hpend⟩ := h.deltas
  have hnil : pend = [] := by simpa [PendingIn, hs] using hpend
  subst hnil
  have hheld := h.held (by simp [live, hs])
  simp only [queued, hs] at hheld
  cases queue with
  | cons f q =>
    -- the next held frame goes out: every delta decoded so far has passed
    have hstep : step dec extractTextDelta evaluateWindow b =
        ({ b with state := .flushing q eof }, some (some (.data f))) := by simp [step, hs]
    have hpre : emitted ++ [f] <+: read := ⟨q ++ b.heldFrames, by rw [← hheld]; simp⟩
    rw [hstep]
    refine ⟨⟨read, ?_⟩, ?_⟩
    · simp only [dataOut]
      exact ⟨h.rest, h.decoder, hpre, fun _ => by simp [queued, ← hheld], ev, [], hdel, hev, rfl⟩
    rintro raw ⟨⟩ d hd hne
    have hd := (decodeFrames_mono b.bufferLimit _ hpre).subset hd
    rw [hdel, List.append_nil] at hd
    exact hev d hd hne
  | nil =>
    cases eof with
    | true =>
      have hstep : step dec extractTextDelta evaluateWindow b = ({ b with state := .done }, some none) := by
        simp [step, hs]
      rw [hstep]
      refine ⟨⟨read, ?_⟩, by simp⟩
      simp only [dataOut, List.append_nil]
      exact ⟨h.rest, h.decoder, h.prefix_read, by simp [live], ev, [], hdel, hev, trivial⟩
    | false =>
      have hstep : step dec extractTextDelta evaluateWindow b = ({ b with state := .buffering }, none) := by
        simp [step, hs]
      rw [hstep]
      refine ⟨⟨read, ?_⟩, by simp⟩
      simp only [dataOut, List.append_nil]
      exact ⟨h.rest, h.decoder, h.prefix_read, fun _ => by simpa [queued] using hheld, ev, [], hdel, hev,
        by simp [PendingIn]⟩

lemma Released.stepBlocked (h : Released dec extractTextDelta evaluateWindow U emitted read b) {x : body}
    (hs : b.state = .blocked x) :
    StepOk dec extractTextDelta evaluateWindow U emitted b (step dec extractTextDelta evaluateWindow b) := by
  have hstep : step dec extractTextDelta evaluateWindow b = ({ b with state := .done }, some (some (.blocked x))) := by
    simp [step, hs]
  obtain ⟨ev, pend, hdel, hev, -⟩ := h.deltas
  rw [hstep]
  refine ⟨⟨read, ?_⟩, by simp⟩
  simp only [dataOut, List.append_nil]
  exact ⟨h.rest, h.decoder, h.prefix_read, by simp [live], ev, pend, hdel, hev, trivial⟩

lemma Released.stepDone (h : Released dec extractTextDelta evaluateWindow U emitted read b)
    (hs : b.state = .done) :
    StepOk dec extractTextDelta evaluateWindow U emitted b (step dec extractTextDelta evaluateWindow b) := by
  have hstep : step dec extractTextDelta evaluateWindow b = (b, some none) := by simp [step, hs]
  rw [hstep]
  refine ⟨⟨read, ?_⟩, by simp⟩
  simpa only [dataOut, List.append_nil] using h

lemma Released.stepEvaluating (h : Released dec extractTextDelta evaluateWindow U emitted read b)
    {window : String} {eof : Bool} (hs : b.state = .evaluating window eof) :
    StepOk dec extractTextDelta evaluateWindow U emitted b (step dec extractTextDelta evaluateWindow b) := by
  obtain ⟨ev, pend, hdel, hev, hpend⟩ := h.deltas
  have hwin : ∀ d ∈ pend, Within d window := by simpa [PendingIn, hs] using hpend
  have hheld : emitted ++ b.heldFrames = read := by simpa [queued, hs] using h.held (by simp [live, hs])
  cases hw : evaluateWindow window with
  | some x =>
    -- the window blocks: the held frames are dropped
    have hstep : step dec extractTextDelta evaluateWindow b =
        ({ b with heldFrames := [], heldBytes := 0, state := .blocked x }, none) := by simp [step, hs, hw]
    rw [hstep]
    refine ⟨⟨read, ?_⟩, by simp⟩
    simp only [dataOut, List.append_nil]
    exact ⟨h.rest, h.decoder, h.prefix_read, by simp [live], ev, pend, hdel, hev, trivial⟩
  | none =>
    -- the window passes: its deltas are evaluated and the held frames queued
    have hstep : step dec extractTextDelta evaluateWindow b =
        ({ b with heldFrames := [], heldBytes := 0, state := .flushing b.heldFrames eof }, none) := by
      simp [step, hs, hw]
    rw [hstep]
    refine ⟨⟨read, ?_⟩, by simp⟩
    simp only [dataOut, List.append_nil]
    refine ⟨h.rest, h.decoder, h.prefix_read, fun _ => by simpa [queued] using hheld, ev ++ pend, [],
      by rw [hdel, List.append_nil], ?_, rfl⟩
    intro d hd hne
    rcases List.mem_append.mp hd with hd | hd
    · exact hev d hd hne
    · exact ⟨window, hw, hwin d hd⟩

lemma Released.stepTrailers (h : Released dec extractTextDelta evaluateWindow U emitted read b)
    (hs : b.state = .buffering) {t : τ} {rest : List (BodyFrame β τ)} (hi : b.inner = .trailers t :: rest) :
    StepOk dec extractTextDelta evaluateWindow U emitted b (step dec extractTextDelta evaluateWindow b) := by
  have hstep : step dec extractTextDelta evaluateWindow b = ({ b with inner := rest }, some (some (.trailers t))) := by
    simp [step, hs, hi]
  have hrest : read ++ dataFrames rest = U := by simpa [dataFrames, hi] using h.rest
  obtain ⟨ev, pend, hdel, hev, hpend⟩ := h.deltas
  rw [hstep]
  refine ⟨⟨read, ?_⟩, by simp⟩
  simp only [dataOut, List.append_nil]
  exact ⟨hrest, h.decoder, h.prefix_read, h.held, ev, pend, hdel, hev, hpend⟩

lemma Released.stepEof (h : Released dec extractTextDelta evaluateWindow U emitted read b)
    (hs : b.state = .buffering) (hi : b.inner = []) :
    StepOk dec extractTextDelta evaluateWindow U emitted b (step dec extractTextDelta evaluateWindow b) := by
  obtain ⟨ev, pend, hdel, hev, hpend⟩ := h.deltas
  have hheld : emitted ++ b.heldFrames = read := by simpa [queued, hs] using h.held (by simp [live, hs])
  -- the pending deltas stay within the text, which only grows at the end of the stream
  have hin : ∀ d ∈ pend, Within d (pushDeltas extractTextDelta b.pendingText (dec.decodeEof b.sseDecoder)) :=
    fun d hd => within_pushDeltas ((by simpa [PendingIn, hs] using hpend : ∀ d ∈ pend, Within d b.pendingText) d hd) _
  by_cases hemp : (pushDeltas extractTextDelta b.pendingText (dec.decodeEof b.sseDecoder)).isEmpty = true
  · -- no text: the held frames go out without an evaluation, and every pending delta is empty
    have hstep : step dec extractTextDelta evaluateWindow b =
        ({ b with
            heldFrames := [], heldBytes := 0,
            pendingText := pushDeltas extractTextDelta b.pendingText (dec.decodeEof b.sseDecoder),
            state := .flushing b.heldFrames true }, none) := by
      simp [step, hs, hi, hemp]
    have hempty : ∀ d ∈ pend, d = "" := fun d hd => by
      rw [String.isEmpty_iff] at hemp
      exact (hemp ▸ hin d hd).eq_empty
    rw [hstep]
    refine ⟨⟨read, ?_⟩, by simp⟩
    simp only [dataOut, List.append_nil]
    refine ⟨h.rest, h.decoder, h.prefix_read, fun _ => by simpa [queued] using hheld, ev ++ pend, [],
      by rw [hdel, List.append_nil], ?_, rfl⟩
    intro d hd hne
    rcases List.mem_append.mp hd with hd | hd
    · exact hev d hd hne
    · exact absurd (hempty d hd) hne
  · -- the last window: the tail of the previous one and the rest of the text
    have hstep : step dec extractTextDelta evaluateWindow b =
        ({ b with
            pendingText := "", overlapTail := "",
            state := .evaluating (b.overlapTail ++
              pushDeltas extractTextDelta b.pendingText (dec.decodeEof b.sseDecoder)) true }, none) := by
      simp [step, hs, hi, hemp]
    rw [hstep]
    refine ⟨⟨read, ?_⟩, by simp⟩
    simp only [dataOut, List.append_nil]
    exact ⟨h.rest, h.decoder, h.prefix_read, fun _ => by simpa [queued] using hheld, ev, pend, hdel, hev,
      fun d hd => (hin d hd).append_left _⟩

lemma Released.stepData (h : Released dec extractTextDelta evaluateWindow U emitted read b)
    (hs : b.state = .buffering) {raw : List β} {rest : List (BodyFrame β τ)} (hi : b.inner = .data raw :: rest) :
    StepOk dec extractTextDelta evaluateWindow U emitted b (step dec extractTextDelta evaluateWindow b) := by
  obtain ⟨ev, pend, hdel, hev, hpend⟩ := h.deltas
  have hheld : emitted ++ b.heldFrames = read := by simpa [queued, hs] using h.held (by simp [live, hs])
  rcases hr : dec.decode b.sseDecoder raw with ⟨frames, decoder⟩
  -- the frame joins what was read, and its deltas the pending ones
  have hrest : (read ++ [raw]) ++ dataFrames rest = U := by
    rw [← h.rest, hi]
    simp [dataFrames]
  have hsnoc : decodeFrames dec extractTextDelta b.bufferLimit (dec.withMaxSize b.bufferLimit) (read ++ [raw]) =
      (ev ++ (pend ++ frames.filterMap extractTextDelta), decoder.getD (dec.withMaxSize b.bufferLimit)) := by
    rw [decodeFrames_snoc, ← h.decoder, hr, hdel, List.append_assoc]
  have hin : ∀ d ∈ pend ++ frames.filterMap extractTextDelta,
      Within d (pushDeltas extractTextDelta b.pendingText frames) := by
    intro d hd
    rcases List.mem_append.mp hd with hd | hd
    · exact within_pushDeltas ((by simpa [PendingIn, hs] using hpend : ∀ d ∈ pend, Within d b.pendingText) d hd) _
    · exact within_pushDeltas_of_mem hd _
  have hpre : emitted <+: read ++ [raw] := h.prefix_read.trans (List.prefix_append _ _)
  have hheld' : emitted ++ (b.heldFrames ++ [raw]) = read ++ [raw] := by rw [← hheld, List.append_assoc]
  simp only [step, hs, hi, hr]
  split_ifs with hthr hemp
  · -- over the limit with no text: the held frames go out without an evaluation
    have hempty : ∀ d ∈ pend ++ frames.filterMap extractTextDelta, d = "" := fun d hd => by
      rw [String.isEmpty_iff] at hemp
      exact (hemp ▸ hin d hd).eq_empty
    refine ⟨⟨read ++ [raw], ?_⟩, by simp⟩
    simp only [dataOut, List.append_nil]
    refine ⟨hrest, by rw [hsnoc], hpre, fun _ => by simpa [queued] using hheld',
      ev ++ (pend ++ frames.filterMap extractTextDelta), [], by rw [hsnoc, List.append_nil], ?_, rfl⟩
    intro d hd hne
    rcases List.mem_append.mp hd with hd | hd
    · exact hev d hd hne
    · exact absurd (hempty d hd) hne
  · -- a window of the tail and the pending text is evaluated
    refine ⟨⟨read ++ [raw], ?_⟩, by simp⟩
    simp only [dataOut, List.append_nil]
    exact ⟨hrest, by rw [hsnoc], hpre, fun _ => by simpa [queued] using hheld',
      ev, pend ++ frames.filterMap extractTextDelta, by rw [hsnoc], hev, fun d hd => (hin d hd).append_left _⟩
  · refine ⟨⟨read ++ [raw], ?_⟩, by simp⟩
    simp only [dataOut, List.append_nil]
    exact ⟨hrest, by rw [hsnoc], hpre, fun _ => by simpa [queued] using hheld',
      ev, pend ++ frames.filterMap extractTextDelta, by rw [hsnoc], hev, hin⟩

lemma Released.stepOk (h : Released dec extractTextDelta evaluateWindow U emitted read b) :
    StepOk dec extractTextDelta evaluateWindow U emitted b (step dec extractTextDelta evaluateWindow b) := by
  cases hs : b.state with
  | buffering =>
    cases hi : b.inner with
    | nil => exact h.stepEof hs hi
    | cons f rest =>
      cases f with
      | data raw => exact h.stepData hs hi
      | trailers t => exact h.stepTrailers hs hi
  | evaluating window eof => exact h.stepEvaluating hs
  | flushing queue eof => exact h.stepFlushing hs
  | blocked x => exact h.stepBlocked hs
  | done => exact h.stepDone hs

end Step

lemma released_withThreshold (inner : List (BodyFrame β τ)) (bufferLimit evalThreshold : Nat) :
    Released dec extractTextDelta evaluateWindow (dataFrames inner) [] []
      (GuardedSseBody.withThreshold dec inner bufferLimit evalThreshold : GuardedSseBody β τ δ body) :=
  ⟨rfl, rfl, List.nil_prefix, fun _ => rfl, [], [], rfl, by simp,
    by simp [PendingIn, GuardedSseBody.withThreshold]⟩

@[simp] lemma step_bufferLimit (b : GuardedSseBody β τ δ body) :
    (step dec extractTextDelta evaluateWindow b).1.bufferLimit = b.bufferLimit := by
  unfold step
  split
  · split
    · rfl
    · split <;> rfl
  · rfl
  · rfl
  · split <;> rfl
  · split
    · rfl
    · dsimp only
      split_ifs <;> rfl
    · dsimp only
      split_ifs <;> rfl

lemma dataOuts_cons (out : Out β τ body) (outs : List (Out β τ body)) :
    dataOuts (out :: outs) = dataOut (some (some out)) ++ dataOuts outs := by
  cases out <;> rfl

lemma passed_snoc {limit : Nat} {emitted : List (List β)} {raw : List β}
    (hpass : ∀ k < emitted.length, DeltasPassed dec extractTextDelta evaluateWindow limit (emitted.take (k + 1)))
    (hraw : DeltasPassed dec extractTextDelta evaluateWindow limit (emitted ++ [raw])) :
    ∀ k < (emitted ++ [raw]).length,
      DeltasPassed dec extractTextDelta evaluateWindow limit ((emitted ++ [raw]).take (k + 1)) := by
  intro k hk
  rcases Nat.lt_or_ge k emitted.length with hlt | hge
  · rw [List.take_append_of_le_length (by omega)]
    exact hpass k hlt
  · rw [List.take_of_length_le (by simp at hk ⊢; omega)]
    exact hraw

lemma Released.yielded {U : List (List β)} (fuel : Nat) :
    ∀ {emitted read : List (List β)} {b : GuardedSseBody β τ δ body},
      Released dec extractTextDelta evaluateWindow U emitted read b →
      (∀ k < emitted.length,
        DeltasPassed dec extractTextDelta evaluateWindow b.bufferLimit (emitted.take (k + 1))) →
      emitted ++ dataOuts (run dec extractTextDelta evaluateWindow fuel b) <+: U ∧
        ∀ k < (emitted ++ dataOuts (run dec extractTextDelta evaluateWindow fuel b)).length,
          DeltasPassed dec extractTextDelta evaluateWindow b.bufferLimit
            ((emitted ++ dataOuts (run dec extractTextDelta evaluateWindow fuel b)).take (k + 1)) := by
  induction fuel with
  | zero =>
    intro emitted read b h hpass
    simpa [run, dataOuts] using And.intro (h.prefix_read.trans ⟨_, h.rest⟩) hpass
  | succ fuel ih =>
    intro emitted read b h hpass
    obtain ⟨⟨read', h'⟩, hout⟩ := h.stepOk
    have hlim : (step dec extractTextDelta evaluateWindow b).1.bufferLimit = b.bufferLimit := step_bufferLimit b
    rcases hst : step dec extractTextDelta evaluateWindow b with ⟨b', r⟩
    rw [hst] at h' hout hlim
    dsimp only at h' hout hlim
    -- the frames yielded so far, with this step's, still have their deltas passed
    have hpass' : ∀ k < (emitted ++ dataOut r).length,
        DeltasPassed dec extractTextDelta evaluateWindow b'.bufferLimit ((emitted ++ dataOut r).take (k + 1)) := by
      rw [hlim]
      rcases r with _ | _ | ((raw | t | x))
      all_goals simp only [dataOut, List.append_nil]
      · exact hpass
      · exact hpass
      · exact passed_snoc hpass (hout raw rfl)
      · exact hpass
      · exact hpass
    have hrun := ih h' hpass'
    rw [hlim] at hrun
    rcases r with _ | _ | out
    · simp only [dataOut, List.append_nil] at hrun
      simpa only [run, hst] using hrun
    · simp only [run, hst, dataOuts, List.filterMap_nil, List.append_nil]
      exact ⟨h.prefix_read.trans ⟨_, h.rest⟩, hpass⟩
    · simp only [run, hst, dataOuts_cons, ← List.append_assoc]
      exact hrun

/-- The data frames the body yields are the upstream data frames, in order and from the first, and
frame `k` comes out only once every non-empty delta decoded from frames `0..k` lies in a window
that passed. -/
theorem guardedSseBody_releases_passed_frames (inner : List (BodyFrame β τ))
    (bufferLimit evalThreshold fuel : Nat) :
    dataOuts (run dec extractTextDelta evaluateWindow fuel
        (GuardedSseBody.withThreshold dec inner bufferLimit evalThreshold : GuardedSseBody β τ δ body)) <+:
      dataFrames inner ∧
    ∀ k < (dataOuts (run dec extractTextDelta evaluateWindow fuel
        (GuardedSseBody.withThreshold dec inner bufferLimit evalThreshold : GuardedSseBody β τ δ body))).length,
      DeltasPassed dec extractTextDelta evaluateWindow bufferLimit ((dataFrames inner).take (k + 1)) := by
  have hinit : Released dec extractTextDelta evaluateWindow (dataFrames inner) [] []
      (GuardedSseBody.withThreshold dec inner bufferLimit evalThreshold : GuardedSseBody β τ δ body) :=
    released_withThreshold inner bufferLimit evalThreshold
  obtain ⟨hpre, hpass⟩ := hinit.yielded fuel (by simp)
  simp only [List.nil_append] at hpre hpass
  refine ⟨hpre, fun k hk => ?_⟩
  -- what is yielded is a prefix of the upstream frames, so its first `k + 1` are theirs
  have h := hpass k hk
  rwa [List.prefix_iff_eq_take.mp hpre, List.take_take, Nat.min_eq_left (by omega)] at h

end Released

/-! ## Frame boundaries inside events -/

def takeEvent : List Char → Option (List Char × List Char)
  | '\n' :: '\n' :: rest => some ([], rest)
  | c :: cs => (takeEvent cs).map fun (e, rest) => (c :: e, rest)
  | [] => none

def splitEvents : Nat → List Char → List (List Char) × List Char
  | 0, buf => ([], buf)
  | n + 1, buf =>
    match takeEvent buf with
    | some (e, rest) => let (es, r) := splitEvents n rest; (e :: es, r)
    | none => ([], buf)

def eventFrame : List Char → SseFrame Char
  | 'd' :: 'a' :: 't' :: 'a' :: ':' :: ' ' :: data => .event data
  | _ => .other

def blankLineDecoder : SseDecoder Char (List Char) (SseFrame Char) where
  withMaxSize _ := []
  decode buf raw :=
    let (es, rest) := splitEvents (buf ++ raw).length (buf ++ raw)
    (es.map eventFrame, some rest)
  decodeEof buf := (splitEvents buf.length buf).1.map eventFrame

def deltaData (t : String) : List Char := "\x7b\"delta\":\x7b\"text\":\"".toList ++ t.toList ++ "\"\x7d\x7d".toList

def deltaJson (data : List Char) : Except Unit Json :=
  match ["ok", "bad"].find? (fun t => data == deltaData t) with
  | some t => .ok (.object [("delta".toList, .object [("text".toList, .string t.toList)])])
  | none => .error ()

def hasBad : List Char → Bool
  | 'b' :: 'a' :: 'd' :: _ => true
  | _ :: cs => hasBad cs
  | [] => false

def rejectBad (window : String) : Option String := if hasBad window.toList then some "blocked" else none

/-- With a threshold of one byte, the window `ok` passes and releases the frame that ends with the
first bytes `ba` of the next delta; the window with `bad` then blocks, but `ba` is already out. And
trailers go out ahead of the data frame held before them. -/
theorem guardedSseBody_releases_unevaluated_bytes :
    run blankLineDecoder (GuardedSseBody.extractTextDelta deltaJson) rejectBad 20
        (GuardedSseBody.withThreshold blankLineDecoder
          [.data "data: \x7b\"delta\":\x7b\"text\":\"ok\"\x7d\x7d\n\ndata: \x7b\"delta\":\x7b\"text\":\"ba".toList,
            .data "d\"\x7d\x7d\n\n".toList] 100 1 : GuardedSseBody Char Unit (List Char) String) =
      [.data "data: \x7b\"delta\":\x7b\"text\":\"ok\"\x7d\x7d\n\ndata: \x7b\"delta\":\x7b\"text\":\"ba".toList,
        .blocked "blocked"] ∧
    run blankLineDecoder (GuardedSseBody.extractTextDelta deltaJson) rejectBad 20
        (GuardedSseBody.withThreshold blankLineDecoder
          [.data "data: \x7b\"delta\":\x7b\"text\":\"ok\"\x7d\x7d\n\n".toList, .trailers ()] 100 10 :
          GuardedSseBody Char Unit (List Char) String) =
      [.trailers (), .data "data: \x7b\"delta\":\x7b\"text\":\"ok\"\x7d\x7d\n\n".toList] := by
  decide

end AgentGateway.Llm.StreamingGuardrails
