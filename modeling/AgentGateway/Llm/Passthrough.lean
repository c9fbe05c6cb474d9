import AgentGateway.Library.Codec
import AgentGateway.Llm.StreamingGuardrails

/-! The observing bodies of `llm/parse/passthrough.rs`: the inner body's frames pass on while
a decoder reads their bytes and a handler sees each item. -/

namespace AgentGateway.Llm.Passthrough

open AgentGateway.Llm.StreamingGuardrails (BodyFrame)
open Library.Codec (Call loop)

structure Decoder (δ ι ε : Type) where
  decode : Call δ UInt8 ι ε
  decodeEof : Call δ UInt8 ι ε

inductive FramePoll (ε τ : Type) where
  | pending
  | frame (f : BodyFrame UInt8 τ)
  | error (e : ε)
  | done
  deriving DecidableEq

inductive BodyError (εb εd : Type) where
  | body (e : εb)
  | decode (e : εd)
  deriving DecidableEq

variable {δ ι εd εb τ : Type}

def dataBytes : BodyFrame UInt8 τ → List UInt8
  | .data bytes => bytes
  | .trailers _ => []

def FramePoll.bytes : FramePoll εb τ → List UInt8
  | .frame f => dataBytes f
  | _ => []

def FramePoll.mapError {ε ε' : Type} (g : ε → ε') : FramePoll ε τ → FramePoll ε' τ
  | .pending => .pending
  | .frame f => .frame f
  | .error e => .error (g e)
  | .done => .done

def pollBody : List (FramePoll εb τ) → FramePoll εb τ × List (FramePoll εb τ)
  | [] => (.done, [])
  | a :: rest => (a, rest)

/-- The `try_decode` closure, the same in both bodies: the decode loop, with `decode_eof` once
the body has finished, calling the handler on each item. -/
def tryDecode (D : Decoder δ ι εd) (finished : Bool) (d : δ) (buf : List UInt8) (handled : List ι) :
    Except εd Unit × δ × List UInt8 × List ι :=
  loop (if finished then D.decodeEof else D.decode) d buf handled

/-! ### `PassthroughBody` -/

structure PassthroughBody (δ ι εb τ : Type) where
  body : List (FramePoll εb τ)
  decoder : δ
  decodeBuffer : List UInt8
  handled : List ι
  finished : Bool

def parser (body : List (FramePoll εb τ)) (decoder : δ) : PassthroughBody δ ι εb τ :=
  ⟨body, decoder, [], [], false⟩

namespace PassthroughBody

def decodePass (D : Decoder δ ι εd) (b : PassthroughBody δ ι εb τ) : Except εd Unit × PassthroughBody δ ι εb τ :=
  match tryDecode D b.finished b.decoder b.decodeBuffer b.handled with
  | (r, d, buf, handled) => (r, { b with decoder := d, decodeBuffer := buf, handled })

/-- The end of `poll_frame` once the inner body gave a frame or ended: a decode pass, whose error
is sent in place of the frame. -/
def sendDecoded (D : Decoder δ ι εd) (frameToSend : FramePoll εb τ) (b : PassthroughBody δ ι εb τ) :
    FramePoll (BodyError εb εd) τ × Option (FramePoll εb τ) × PassthroughBody δ ι εb τ :=
  match b.decodePass D with
  | (.ok (), b) => (frameToSend.mapError .body, some frameToSend, b)
  | (.error e, b) => (.error (.decode e), some frameToSend, b)

def pollInner (D : Decoder δ ι εd) (b : PassthroughBody δ ι εb τ) :
    FramePoll (BodyError εb εd) τ × Option (FramePoll εb τ) × PassthroughBody δ ι εb τ :=
  match pollBody b.body with
  | (.pending, body) => (.pending, some .pending, { b with body })
  | (.error e, body) => (.error (.body e), some (.error e), { b with body })
  | (.frame f, body) => sendDecoded D (.frame f) { b with body, decodeBuffer := b.decodeBuffer ++ dataBytes f }
  | (.done, body) => sendDecoded D .done { b with body, finished := true }

/-- `poll_frame`: what the body yields, what the inner body answered if it was polled, and the
body after the call. -/
def pollFrame (D : Decoder δ ι εd) (b : PassthroughBody δ ι εb τ) :
    FramePoll (BodyError εb εd) τ × Option (FramePoll εb τ) × PassthroughBody δ ι εb τ :=
  if b.finished then (.done, none, b)
  else
    match b.decodePass D with
    | (.error e, b) => (.error (.decode e), none, b)
    | (.ok (), b) => pollInner D b

def run (D : Decoder δ ι εd) : Nat → PassthroughBody δ ι εb τ →
    List (FramePoll (BodyError εb εd) τ × Option (FramePoll εb τ)) × PassthroughBody δ ι εb τ
  | 0, b => ([], b)
  | n + 1, b =>
    let r := run D n b
    let s := pollFrame D r.2
    (r.1 ++ [(s.1, s.2.1)], s.2.2)

end PassthroughBody

/-! ### `FullPassthroughBody` -/

structure FullPassthroughBody (δ ι εb τ : Type) where
  body : List (FramePoll εb τ)
  decoder : δ
  decodeBuffer : List UInt8
  handled : List ι
  finished : Bool
  error : Bool

def fullPassthroughParser (body : List (FramePoll εb τ)) (decoder : δ) : FullPassthroughBody δ ι εb τ :=
  ⟨body, decoder, [], [], false, false⟩

namespace FullPassthroughBody

def decodePass (D : Decoder δ ι εd) (b : FullPassthroughBody δ ι εb τ) : FullPassthroughBody δ ι εb τ :=
  match tryDecode D b.finished b.decoder b.decodeBuffer b.handled with
  | (.ok (), d, buf, handled) => { b with decoder := d, decodeBuffer := buf, handled }
  | (.error _, d, buf, handled) => { b with decoder := d, decodeBuffer := buf, handled, error := true }

/-- The rest of `poll_frame` after the first decode pass: the inner body's answer is what the
body yields; with no decode error latched, its bytes go to the buffer and its end sets
`finished` before a decode pass. -/
def pollInner (D : Decoder δ ι εd) (b : FullPassthroughBody δ ι εb τ) :
    FramePoll εb τ × Option (FramePoll εb τ) × FullPassthroughBody δ ι εb τ :=
  match pollBody b.body with
  | (.pending, body) => (.pending, some .pending, { b with body })
  | (frameToSend, body) =>
    let b := { b with body }
    if b.error then (frameToSend, some frameToSend, b)
    else
      let b := match frameToSend with
        | .frame f => { b with decodeBuffer := b.decodeBuffer ++ dataBytes f }
        | .done => { b with finished := true }
        | .error _ => b
        | .pending => b
      (frameToSend, some frameToSend, b.decodePass D)

def pollFrame (D : Decoder δ ι εd) (b : FullPassthroughBody δ ι εb τ) :
    FramePoll εb τ × Option (FramePoll εb τ) × FullPassthroughBody δ ι εb τ :=
  if b.finished then (.done, none, b)
  else pollInner D (if b.error then b else b.decodePass D)

def run (D : Decoder δ ι εd) : Nat → FullPassthroughBody δ ι εb τ →
    List (FramePoll εb τ × Option (FramePoll εb τ)) × FullPassthroughBody δ ι εb τ
  | 0, b => ([], b)
  | n + 1, b =>
    let r := run D n b
    let s := pollFrame D r.2
    (r.1 ++ [(s.1, s.2.1)], s.2.2)

end FullPassthroughBody

/-! ### What the decoder makes of the whole stream -/

def dataOf (answers : List (FramePoll εb τ)) : List UInt8 := answers.flatMap FramePoll.bytes

/-- What the decoder makes of a stream's bytes read at once: the loop of `decode` over them, and
once the stream has ended and that loop did not fail, the loop of `decode_eof` after it. -/
def decodeAll (D : Decoder δ ι εd) (d0 : δ) (data : List UInt8) (atEnd : Bool) :
    Except εd Unit × δ × List UInt8 × List ι :=
  match loop D.decode d0 data [] with
  | (.ok (), d, buf, items) => if atEnd then loop D.decodeEof d buf items else (.ok (), d, buf, items)
  | (.error e, d, buf, items) => (.error e, d, buf, items)

/-- What the decoder makes of the first `n` answers of the inner body, the end counting once
the answers have run out. -/
def decodedAfter (D : Decoder δ ι εd) (d0 : δ) (body : List (FramePoll εb τ)) (n : Nat) :
    Except εd Unit × δ × List UInt8 × List ι :=
  decodeAll D d0 (dataOf (body.take n)) (decide (body.length < n))

/-! ### The inner body's answers and the reference decode -/

section Reference

variable {D : Decoder δ ι εd} {d0 : δ} {body : List (FramePoll εb τ)}

lemma pollBody_drop (body : List (FramePoll εb τ)) (n : Nat) :
    pollBody (body.drop n) = (body.getD n .done, body.drop (n + 1)) := by
  induction n generalizing body with
  | zero => cases body <;> rfl
  | succ n ih =>
    cases body with
    | nil => rfl
    | cons a rest => exact ih rest

lemma getD_of_le {n : Nat} (h : body.length ≤ n) : body.getD n .done = .done := by
  rw [List.getD_eq_getElem?_getD, List.getElem?_eq_none h]
  rfl

lemma lt_length_of_getD_ne {n : Nat} (h : body.getD n .done ≠ .done) : n < body.length :=
  Nat.lt_of_not_le fun hle => h (getD_of_le hle)

lemma getD_mem {n : Nat} (h : n < body.length) : body.getD n .done ∈ body := by
  rw [List.getD_eq_getElem?_getD, List.getElem?_eq_getElem h]
  exact List.getElem_mem h

lemma filterMap_range_getD (body : List (FramePoll εb τ)) (n : Nat) :
    (List.range n).filterMap (fun j => if body.length < j then none else some (body.getD j .done)) =
      (body ++ [FramePoll.done]).take n := by
  induction n with
  | zero => rfl
  | succ n ih =>
    rw [List.range_succ, List.filterMap_append, ih, List.take_add_one]
    by_cases hn : body.length < n
    · rw [List.getElem?_eq_none (by simp; omega)]
      simp [hn]
    · have hget : (body ++ [FramePoll.done])[n]? = some (body.getD n .done) := by
        rcases Nat.lt_or_eq_of_le (Nat.not_lt.1 hn) with hlt | rfl
        · rw [List.getElem?_append_left hlt, List.getD_eq_getElem?_getD, List.getElem?_eq_getElem hlt]
          rfl
        · rw [List.getElem?_append_right (Nat.le_refl _), getD_of_le (Nat.le_refl _)]
          simp
      rw [hget]
      simp [hn]

lemma dataOf_take_succ (body : List (FramePoll εb τ)) (n : Nat) :
    dataOf (body.take (n + 1)) = dataOf (body.take n) ++ (body.getD n .done).bytes := by
  induction n generalizing body with
  | zero => cases body <;> simp [dataOf, FramePoll.bytes]
  | succ n ih =>
    cases body with
    | nil => simp [dataOf, FramePoll.bytes]
    | cons a rest =>
      rw [List.take_succ_cons, List.take_succ_cons]
      simp only [dataOf, List.flatMap_cons, List.getD_cons_succ] at ih ⊢
      rw [ih rest, List.append_assoc]

lemma loop_nil_items (c : Call δ UInt8 ι εd) (d : δ) (items : List ι) : (loop c d [] items).2.2.2 = items := by
  rcases hc : c.call d [] with ⟨(e | (_ | x)), d', buf'⟩
  · rw [Library.Codec.loop_of_error hc]
  · rw [Library.Codec.loop_of_wait hc]
  · have hs := c.length_lt hc
    simp at hs

lemma decodeAll_false (data : List UInt8) : decodeAll D d0 data false = loop D.decode d0 data [] := by
  rw [decodeAll]
  rcases loop D.decode d0 data [] with ⟨(e | _), d, buf, items⟩ <;> rfl

lemma decodeAll_true_of_ok {data buf : List UInt8} {d : δ} {items : List ι}
    (h : loop D.decode d0 data [] = (.ok (), d, buf, items)) :
    decodeAll D d0 data true = loop D.decodeEof d buf items := by
  rw [decodeAll, h]
  rfl

lemma decodeAll_of_error {data buf : List UInt8} {d : δ} {items : List ι} {e : εd}
    (h : loop D.decode d0 data [] = (.error e, d, buf, items)) (atEnd : Bool) :
    decodeAll D d0 data atEnd = (.error e, d, buf, items) := by
  rw [decodeAll, h]

lemma decodedAfter_zero : decodedAfter D d0 body 0 = loop D.decode d0 [] [] := by
  simp [decodedAfter, decodeAll_false, dataOf]

lemma decodedAfter_of_le {n : Nat} (hn : n ≤ body.length) :
    decodedAfter D d0 body n = loop D.decode d0 (dataOf (body.take n)) [] := by
  rw [decodedAfter, decide_eq_false (Nat.not_lt.2 hn), decodeAll_false]

lemma decodedAfter_succ_of_lt {n : Nat} (hn : body.length < n) :
    decodedAfter D d0 body (n + 1) = decodedAfter D d0 body n := by
  rw [decodedAfter, decodedAfter, List.take_of_length_le (by omega), List.take_of_length_le (by omega),
    decide_eq_true hn, decide_eq_true (by omega)]

section Incremental

variable (hD : Library.Codec.Incremental D.decode)
include hD

lemma decodedAfter_succ_of_ok {n : Nat} (hn : n ≤ body.length) {d : δ} {buf : List UInt8} {items : List ι}
    (h : decodedAfter D d0 body n = (.ok (), d, buf, items)) :
    decodedAfter D d0 body (n + 1) =
      tryDecode D (decide (body.length < n + 1)) d (buf ++ (body.getD n .done).bytes) items := by
  rw [decodedAfter_of_le hn] at h
  rcases Nat.lt_or_eq_of_le hn with hlt | rfl
  · -- an answer of the body: its bytes continue the loop
    rw [decodedAfter_of_le hlt, dataOf_take_succ, hD.loop_append_of_ok h, decide_eq_false (by omega)]
    rfl
  · -- the end: the loop of `decode_eof` after the loop over all the bytes
    rw [List.take_length] at h
    rw [decodedAfter, List.take_of_length_le (by omega), decide_eq_true (by omega), decodeAll_true_of_ok h,
      getD_of_le (Nat.le_refl _)]
    simp [FramePoll.bytes, tryDecode]

lemma decodedAfter_succ_of_error {n : Nat} {d : δ} {buf : List UInt8} {items : List ι} {e : εd}
    (h : decodedAfter D d0 body n = (.error e, d, buf, items)) :
    ∃ d' buf', decodedAfter D d0 body (n + 1) = (.error e, d', buf', items) := by
  rcases Nat.lt_or_ge body.length n with hlt | hle
  · exact ⟨d, buf, (decodedAfter_succ_of_lt hlt).trans h⟩
  rw [decodedAfter_of_le hle] at h
  rcases Nat.lt_or_eq_of_le hle with hlt | rfl
  · rw [decodedAfter_of_le hlt, dataOf_take_succ, hD.loop_append_of_error h]
    exact ⟨d, _, rfl⟩
  · rw [List.take_length] at h
    rw [decodedAfter, List.take_of_length_le (by omega), decodeAll_of_error h]
    exact ⟨d, buf, rfl⟩

end Incremental

end Reference

/-! ### `FullPassthroughBody` over a whole run -/

namespace FullPassthroughBody

section Step

variable {D : Decoder δ ι εd} {b : FullPassthroughBody δ ι εb τ} {d : δ} {buf : List UInt8} {items : List ι}

lemma decodePass_of_ok (h : tryDecode D b.finished b.decoder b.decodeBuffer b.handled = (.ok (), d, buf, items)) :
    b.decodePass D = { b with decoder := d, decodeBuffer := buf, handled := items } := by
  rw [decodePass, h]

lemma decodePass_of_error {e : εd}
    (h : tryDecode D b.finished b.decoder b.decodeBuffer b.handled = (.error e, d, buf, items)) :
    b.decodePass D = { b with decoder := d, decodeBuffer := buf, handled := items, error := true } := by
  rw [decodePass, h]

lemma pollFrame_of_finished (h : b.finished = true) : pollFrame D b = (.done, none, b) := by
  rw [pollFrame, if_pos h]

lemma pollFrame_of_not_finished (h : b.finished = false) :
    pollFrame D b = pollInner D (if b.error then b else b.decodePass D) := by
  rw [pollFrame, if_neg (by simp [h])]

lemma pollInner_of_error (he : b.error = true) :
    pollInner D b = ((pollBody b.body).1, some (pollBody b.body).1, { b with body := (pollBody b.body).2 }) := by
  rw [pollInner]
  rcases pollBody b.body with ⟨_ | f | e | _, rest⟩ <;> simp [he]

lemma pollInner_of_pending {rest : List (FramePoll εb τ)} (hb : pollBody b.body = (.pending, rest)) :
    pollInner D b = (.pending, some .pending, { b with body := rest }) := by
  rw [pollInner, hb]

lemma pollInner_of_bodyError {e : εb} {rest : List (FramePoll εb τ)} (hb : pollBody b.body = (.error e, rest))
    (he : b.error = false) :
    pollInner D b = (.error e, some (.error e), decodePass D { b with body := rest }) := by
  rw [pollInner, hb]
  simp [he]

lemma pollInner_of_frame {f : BodyFrame UInt8 τ} {rest : List (FramePoll εb τ)} (hb : pollBody b.body = (.frame f, rest))
    (he : b.error = false) :
    pollInner D b = (.frame f, some (.frame f),
      decodePass D { b with body := rest, decodeBuffer := b.decodeBuffer ++ dataBytes f }) := by
  rw [pollInner, hb]
  simp [he]

lemma pollInner_of_done {rest : List (FramePoll εb τ)} (hb : pollBody b.body = (.done, rest)) (he : b.error = false) :
    pollInner D b = (.done, some .done, decodePass D { b with body := rest, finished := true }) := by
  rw [pollInner, hb]
  simp [he]

end Step

def LoopFails (D : Decoder δ ι εd) (d0 : δ) (body : List (FramePoll εb τ)) : Bool :=
  !(loop D.decode d0 (dataOf body) []).1.isOk

/-- The body after `n` polls over `body` from decoder state `d0`: it has read the first `n`
answers and has finished once past them unless the decode loop over all the bytes failed. While it
goes on, its decode pass gives what the decoder makes at once of what it read, and adds no item;
once finished, or with an error latched, its items are those the decoder makes of it at once. -/
structure FullInv (D : Decoder δ ι εd) (d0 : δ) (body : List (FramePoll εb τ)) (n : Nat)
    (b : FullPassthroughBody δ ι εb τ) : Prop where
  body_eq : b.body = body.drop n
  finished_eq : b.finished = (decide (body.length < n) && !LoopFails D d0 body)
  going : b.finished = false → b.error = false →
    loop D.decode b.decoder b.decodeBuffer b.handled = decodedAfter D d0 body n ∧
      (loop D.decode b.decoder b.decodeBuffer b.handled).2.2.2 = b.handled
  ended : b.finished = true → b.error = false →
    decodedAfter D d0 body n = (.ok (), b.decoder, b.decodeBuffer, b.handled)
  failed : b.error = true → ∃ e d buf, decodedAfter D d0 body n = (.error e, d, buf, b.handled)

section Invariant

variable {D : Decoder δ ι εd} {d0 : δ} {body : List (FramePoll εb τ)} {n : Nat} {b : FullPassthroughBody δ ι εb τ}

lemma fullInv_init (D : Decoder δ ι εd) (d0 : δ) (body : List (FramePoll εb τ)) :
    FullInv D d0 body 0 (fullPassthroughParser body d0) where
  body_eq := rfl
  finished_eq := by simp [fullPassthroughParser]
  going _ _ := ⟨decodedAfter_zero.symm, loop_nil_items _ _ _⟩
  ended h := by cases h
  failed h := by cases h

lemma FullInv.handled_eq (h : FullInv D d0 body n b) : b.handled = (decodedAfter D d0 body n).2.2.2 := by
  cases he : b.error
  · cases hf : b.finished
    · obtain ⟨hloop, hitems⟩ := h.going hf he
      rw [← hloop, hitems]
    · rw [h.ended hf he]
  · obtain ⟨e, d, buf, hr⟩ := h.failed he
    rw [hr]

lemma FullInv.of_lt (h : FullInv D d0 body n b) (hlt : body.length < n) : FullInv D d0 body (n + 1) b where
  body_eq := by rw [h.body_eq, List.drop_of_length_le (by omega), List.drop_of_length_le (by omega)]
  finished_eq := by rw [h.finished_eq, decide_eq_true hlt, decide_eq_true (by omega)]
  going hf he := decodedAfter_succ_of_lt hlt ▸ h.going hf he
  ended hf he := decodedAfter_succ_of_lt hlt ▸ h.ended hf he
  failed he := decodedAfter_succ_of_lt hlt ▸ h.failed he

lemma FullInv.le_length (h : FullInv D d0 body n b) (hf : b.finished = false)
    (hok : (decodedAfter D d0 body n).1 = .ok ()) : n ≤ body.length := by
  by_contra hlt
  have hlt : body.length < n := Nat.lt_of_not_le hlt
  rw [decodedAfter, List.take_of_length_le (Nat.le_of_lt hlt), decide_eq_true hlt] at hok
  have hfails : LoopFails D d0 body = false := by
    rcases hl : loop D.decode d0 (dataOf body) [] with ⟨(e | _), d, buf, items⟩
    · rw [decodeAll_of_error hl] at hok
      cases hok
    · simp [LoopFails, hl, Except.isOk, Except.toBool]
  have := h.finished_eq
  rw [hf, decide_eq_true hlt, hfails] at this
  cases this


lemma finished_succ_of_error (hfin : (decide (body.length < n) && !LoopFails D d0 body) = false)
    {e : εd} {d : δ} {buf : List UInt8} {items : List ι} (hr : decodedAfter D d0 body n = (.error e, d, buf, items)) :
    (decide (body.length < n + 1) && !LoopFails D d0 body) = false := by
  rcases Nat.lt_trichotomy n body.length with hlt | rfl | hgt
  · rw [decide_eq_false (by omega), Bool.false_and]
  · rw [decodedAfter_of_le (Nat.le_refl _), List.take_length] at hr
    simp [LoopFails, hr, Except.isOk, Except.toBool]
  · rw [decide_eq_true (by omega : body.length < n + 1)]
    rwa [decide_eq_true hgt] at hfin

lemma FullInv.prePass (h : FullInv D d0 body n b) (hf : b.finished = false) :
    let b0 := if b.error then b else b.decodePass D
    b0.body = body.drop n ∧ b0.finished = false ∧
    (b0.error = true → ∃ e d buf, decodedAfter D d0 body n = (.error e, d, buf, b0.handled)) ∧
    (b0.error = false → decodedAfter D d0 body n = (.ok (), b0.decoder, b0.decodeBuffer, b0.handled)) := by
  cases he : b.error
  · obtain ⟨hloop, -⟩ := h.going hf he
    have ht : tryDecode D b.finished b.decoder b.decodeBuffer b.handled = decodedAfter D d0 body n := by
      rw [hf, ← hloop]
      rfl
    rcases hr : decodedAfter D d0 body n with ⟨(e | _), d, buf, items⟩ <;> rw [hr] at ht
    · rw [if_neg (by simp), decodePass_of_error ht]
      exact ⟨h.body_eq, hf, fun _ => ⟨e, d, buf, rfl⟩, fun h => by cases h⟩
    · rw [if_neg (by simp), decodePass_of_ok ht]
      exact ⟨h.body_eq, hf, fun h => by simp [he] at h, fun _ => rfl⟩
  · rw [if_pos rfl]
    exact ⟨h.body_eq, hf, fun _ => h.failed he, fun h => by simp [he] at h⟩

section Incremental

variable (hD : Library.Codec.Incremental D.decode)
include hD

lemma FullInv.of_decodePass (hb : b.body = body.drop (n + 1)) (he : b.error = false)
    (hfin : b.finished = (decide (body.length < n + 1) && !LoopFails D d0 body))
    (ht : tryDecode D b.finished b.decoder b.decodeBuffer b.handled = decodedAfter D d0 body (n + 1)) :
    FullInv D d0 body (n + 1) (b.decodePass D) := by
  rcases hr : decodedAfter D d0 body (n + 1) with ⟨(e | _), d, buf, items⟩ <;> rw [hr] at ht
  · rw [decodePass_of_error ht]
    exact ⟨hb, hfin, fun _ h => (by cases h), fun _ h => (by cases h), fun _ => ⟨e, d, buf, hr⟩⟩
  · rw [decodePass_of_ok ht]
    refine ⟨hb, hfin, fun hf _ => ?_, fun _ _ => hr, fun h => (by simp [he] at h)⟩
    -- still going: the pass was a loop of `decode`, and running it again changes nothing
    have hloop : loop D.decode b.decoder b.decodeBuffer b.handled = (.ok (), d, buf, items) := by
      have hf' : b.finished = false := hf
      simpa [tryDecode, hf'] using ht
    have hidem := hD.loop_idem hloop
    exact ⟨hidem.trans hr.symm, by rw [hidem]⟩

/-- One poll: the body yields the inner body's next answer, polls the inner body unless it has
finished, and keeps the invariant. -/
theorem FullInv.step (hbody : FramePoll.done ∉ body) (h : FullInv D d0 body n b) :
    (pollFrame D b).1 = body.getD n .done ∧
    (pollFrame D b).2.1 = (if b.finished then none else some (body.getD n .done)) ∧
    FullInv D d0 body (n + 1) (pollFrame D b).2.2 := by
  cases hf : b.finished
  · obtain ⟨hb0, hf0, herr0, hok0⟩ := h.prePass hf
    rw [pollFrame_of_not_finished hf]
    generalize (if b.error = true then b else b.decodePass D) = b0 at hb0 hf0 herr0 hok0 ⊢
    have hpoll : pollBody b0.body = (body.getD n .done, body.drop (n + 1)) := by rw [hb0, pollBody_drop]
    cases he0 : b0.error
    · -- the pre-pass left what the decoder makes at once of the first `n` answers
      have hok := hok0 he0
      have hn : n ≤ body.length := h.le_length hf (by rw [hok])
      have hfix : loop D.decode b0.decoder b0.decodeBuffer b0.handled =
          (.ok (), b0.decoder, b0.decodeBuffer, b0.handled) :=
        hD.loop_idem ((decodedAfter_of_le hn).symm.trans hok)
      have hnext := decodedAfter_succ_of_ok hD hn hok
      rcases ha : body.getD n .done with _ | f | e | _ <;> rw [ha] at hpoll hnext
      · -- `Pending`: nothing read
        have hlt := lt_length_of_getD_ne (by rw [ha]; simp)
        have hsame : decodedAfter D d0 body (n + 1) = (.ok (), b0.decoder, b0.decodeBuffer, b0.handled) := by
          rw [hnext, decide_eq_false (by omega)]
          simpa [FramePoll.bytes, tryDecode] using hfix
        rw [pollInner_of_pending hpoll]
        refine ⟨rfl, rfl, rfl, ?_, fun _ _ => ⟨hfix.trans hsame.symm, by rw [hfix]⟩,
          fun h => (by simp [hf0] at h), fun h => (by simp [he0] at h)⟩
        rw [decide_eq_false (by omega : ¬ body.length < n + 1)]
        simpa using hf0
      · -- a frame: its bytes are decoded
        have hlt := lt_length_of_getD_ne (by rw [ha]; simp)
        rw [pollInner_of_frame hpoll he0]
        refine ⟨rfl, rfl, FullInv.of_decodePass hD rfl he0 ?_ ?_⟩
        · rw [decide_eq_false (by omega : ¬ body.length < n + 1)]
          simpa using hf0
        · rw [hnext, decide_eq_false (by omega)]
          simp [FramePoll.bytes, hf0]
      · -- an error of the inner body: nothing read, the pass runs again
        have hlt := lt_length_of_getD_ne (by rw [ha]; simp)
        rw [pollInner_of_bodyError hpoll he0]
        refine ⟨rfl, rfl, FullInv.of_decodePass hD rfl he0 ?_ ?_⟩
        · rw [decide_eq_false (by omega : ¬ body.length < n + 1)]
          simpa using hf0
        · rw [hnext, decide_eq_false (by omega)]
          simp [FramePoll.bytes, hf0]
      · -- the end: `finished` and the pass of `decode_eof`
        have hn' : n = body.length := by
          by_contra hne
          exact hbody (ha ▸ getD_mem (by omega))
        subst hn'
        rw [pollInner_of_done hpoll he0]
        refine ⟨rfl, rfl, FullInv.of_decodePass hD rfl he0 ?_ ?_⟩
        · rw [decodedAfter_of_le (Nat.le_refl _), List.take_length] at hok
          simp [LoopFails, hok, Except.isOk, Except.toBool]
        · rw [hnext]
          simp [FramePoll.bytes]
    · -- a latched decode error: the answer is only passed on
      obtain ⟨e, d, buf, hr⟩ := herr0 he0
      obtain ⟨d', buf', hr'⟩ := decodedAfter_succ_of_error hD hr
      have hfin := h.finished_eq
      rw [hf] at hfin
      rw [pollInner_of_error he0, hpoll]
      exact ⟨rfl, rfl, rfl, hf0.trans (finished_succ_of_error hfin.symm hr).symm,
        fun _ h => (by simp [he0] at h), fun _ h => (by simp [he0] at h), fun _ => ⟨e, d', buf', hr'⟩⟩
  · -- finished: past the end, nothing changes
    have hlt : body.length < n := by
      have hfin := h.finished_eq
      rw [hf] at hfin
      simpa using (Bool.and_eq_true_iff.1 hfin.symm).1
    rw [pollFrame_of_finished hf, getD_of_le (Nat.le_of_lt hlt)]
    exact ⟨rfl, rfl, h.of_lt hlt⟩

/-- What `n` polls yield and whether they poll the inner body: the `j`-th poll yields the inner
body's `j`-th answer and polls it unless the body has finished past its end. -/
theorem run_fullInv (d0 : δ) (hbody : FramePoll.done ∉ body) (n : Nat) :
    FullInv D d0 body n (run D n (fullPassthroughParser body d0)).2 ∧
    (run D n (fullPassthroughParser body d0)).1 = (List.range n).map fun j =>
      (body.getD j .done,
        if decide (body.length < j) && !LoopFails D d0 body then none else some (body.getD j .done)) := by
  induction n with
  | zero => exact ⟨fullInv_init D d0 body, rfl⟩
  | succ n ih =>
    obtain ⟨hinv, hout⟩ := ih
    obtain ⟨hyield, hpolled, hinv'⟩ := hinv.step hD hbody
    refine ⟨hinv', ?_⟩
    rw [run]
    dsimp only
    rw [hout, hyield, hpolled, hinv.finished_eq, List.range_succ, List.map_append]
    rfl

end Incremental

end Invariant

end FullPassthroughBody

/-! ### `PassthroughBody` up to its first decode error -/

namespace PassthroughBody

section Step

variable {D : Decoder δ ι εd} {b : PassthroughBody δ ι εb τ} {d : δ} {buf : List UInt8} {items : List ι}

lemma decodePass_of {r : Except εd Unit} (h : tryDecode D b.finished b.decoder b.decodeBuffer b.handled = (r, d, buf, items)) :
    b.decodePass D = (r, { b with decoder := d, decodeBuffer := buf, handled := items }) := by
  rw [decodePass, h]

lemma pollFrame_of_finished (h : b.finished = true) : pollFrame D b = (.done, none, b) := by
  rw [pollFrame, if_pos h]

lemma pollFrame_of_ok {b0 : PassthroughBody δ ι εb τ} (hf : b.finished = false) (h : b.decodePass D = (.ok (), b0)) :
    pollFrame D b = pollInner D b0 := by
  rw [pollFrame, if_neg (by simp [hf]), h]

lemma pollInner_of_pending {rest : List (FramePoll εb τ)} (hb : pollBody b.body = (.pending, rest)) :
    pollInner D b = (.pending, some .pending, { b with body := rest }) := by
  rw [pollInner, hb]

lemma pollInner_of_bodyError {e : εb} {rest : List (FramePoll εb τ)} (hb : pollBody b.body = (.error e, rest)) :
    pollInner D b = (.error (.body e), some (.error e), { b with body := rest }) := by
  rw [pollInner, hb]

lemma pollInner_of_frame {f : BodyFrame UInt8 τ} {rest : List (FramePoll εb τ)} (hb : pollBody b.body = (.frame f, rest)) :
    pollInner D b = sendDecoded D (.frame f) { b with body := rest, decodeBuffer := b.decodeBuffer ++ dataBytes f } := by
  rw [pollInner, hb]

lemma pollInner_of_done {rest : List (FramePoll εb τ)} (hb : pollBody b.body = (.done, rest)) :
    pollInner D b = sendDecoded D .done { b with body := rest, finished := true } := by
  rw [pollInner, hb]

end Step

/-- What the body yields for an answer of the inner body after a decode pass that ended with `r`:
the answer, or the decode error in its place. -/
def sent (r : Except εd Unit) (a : FramePoll εb τ) : FramePoll (BodyError εb εd) τ :=
  match r with
  | .ok () => a.mapError .body
  | .error e => .error (.decode e)

lemma sendDecoded_of {D : Decoder δ ι εd} {b : PassthroughBody δ ι εb τ} {r : Except εd Unit} {d : δ}
    {buf : List UInt8} {items : List ι} (a : FramePoll εb τ)
    (h : tryDecode D b.finished b.decoder b.decodeBuffer b.handled = (r, d, buf, items)) :
    sendDecoded D a b = (sent r a, some a, { b with decoder := d, decodeBuffer := buf, handled := items }) := by
  rw [sendDecoded, decodePass_of h]
  cases r <;> rfl

/-- The body after `n` polls over `body` from decoder state `d0`, with no decode error yet:
it has read the first `n` answers and has finished once past them; while it goes on its decode
pass gives what the decoder makes at once of what it read and adds no item, and once finished its
items are those. -/
structure ParserInv (D : Decoder δ ι εd) (d0 : δ) (body : List (FramePoll εb τ)) (n : Nat)
    (b : PassthroughBody δ ι εb τ) : Prop where
  body_eq : b.body = body.drop n
  finished_eq : b.finished = decide (body.length < n)
  going : b.finished = false →
    loop D.decode b.decoder b.decodeBuffer b.handled = decodedAfter D d0 body n ∧
      (loop D.decode b.decoder b.decodeBuffer b.handled).2.2.2 = b.handled
  ended : b.finished = true → decodedAfter D d0 body n = (.ok (), b.decoder, b.decodeBuffer, b.handled)

section Invariant

variable {D : Decoder δ ι εd} {d0 : δ} {body : List (FramePoll εb τ)} {n : Nat} {b : PassthroughBody δ ι εb τ}

lemma parserInv_init (D : Decoder δ ι εd) (d0 : δ) (body : List (FramePoll εb τ)) :
    ParserInv D d0 body 0 (parser body d0) where
  body_eq := rfl
  finished_eq := by simp [parser]
  going _ := ⟨decodedAfter_zero.symm, loop_nil_items _ _ _⟩
  ended h := by cases h

variable (hD : Library.Codec.Incremental D.decode)
include hD

lemma ParserInv.of_sendDecoded (a : FramePoll εb τ) (hb : b.body = body.drop (n + 1))
    (hfin : b.finished = decide (body.length < n + 1))
    (ht : tryDecode D b.finished b.decoder b.decodeBuffer b.handled = decodedAfter D d0 body (n + 1)) :
    (sendDecoded D a b).1 = sent (decodedAfter D d0 body (n + 1)).1 a ∧ (sendDecoded D a b).2.1 = some a ∧
    (sendDecoded D a b).2.2.handled = (decodedAfter D d0 body (n + 1)).2.2.2 ∧
    ((decodedAfter D d0 body (n + 1)).1 = .ok () → ParserInv D d0 body (n + 1) (sendDecoded D a b).2.2) := by
  rcases hr : decodedAfter D d0 body (n + 1) with ⟨r, d, buf, items⟩
  rw [hr] at ht
  rw [sendDecoded_of a ht]
  refine ⟨rfl, rfl, rfl, fun hok => ?_⟩
  dsimp only at hok
  subst hok
  refine ⟨hb, hfin, fun hf => ?_, fun _ => hr⟩
  -- still going: the pass was a loop of `decode`, and running it again changes nothing
  have hf' : b.finished = false := hf
  have hloop : loop D.decode b.decoder b.decodeBuffer b.handled = (.ok (), d, buf, items) := by
    simpa [tryDecode, hf'] using ht
  have hidem := hD.loop_idem hloop
  exact ⟨hidem.trans hr.symm, by rw [hidem]⟩

/-- One poll with no decode error so far: the body polls the inner body unless it has finished,
yields its answer or the decode error in its place, and its items are those the decoder makes at
once of the answers read; without an error it keeps the invariant. -/
theorem ParserInv.step (hbody : FramePoll.done ∉ body) (h : ParserInv D d0 body n b)
    (hok : (decodedAfter D d0 body n).1 = .ok ()) :
    (pollFrame D b).1 = sent (decodedAfter D d0 body (n + 1)).1 (body.getD n .done) ∧
    (pollFrame D b).2.1 = (if b.finished then none else some (body.getD n .done)) ∧
    (pollFrame D b).2.2.handled = (decodedAfter D d0 body (n + 1)).2.2.2 ∧
    ((decodedAfter D d0 body (n + 1)).1 = .ok () → ParserInv D d0 body (n + 1) (pollFrame D b).2.2) := by
  cases hf : b.finished
  · have hn : n ≤ body.length := by
      have hfin := h.finished_eq
      rw [hf] at hfin
      exact Nat.not_lt.1 (of_decide_eq_false hfin.symm)
    obtain ⟨hloop, hitems⟩ := h.going hf
    rcases hr : decodedAfter D d0 body n with ⟨(e | _), d1, buf1, items1⟩
    · rw [hr] at hok
      cases hok
    rw [hr] at hloop
    have hpre : b.decodePass D = (.ok (), { b with decoder := d1, decodeBuffer := buf1, handled := items1 }) :=
      decodePass_of (by rw [hf]; exact hloop)
    rw [pollFrame_of_ok hf hpre]
    have hfix := hD.loop_idem hloop
    have hnext := decodedAfter_succ_of_ok hD hn hr
    have hpoll : pollBody (body.drop n) = (body.getD n .done, body.drop (n + 1)) := pollBody_drop body n
    rw [← h.body_eq] at hpoll
    rcases ha : body.getD n .done with _ | f | e | _ <;> rw [ha] at hpoll hnext
    · -- `Pending`: nothing read
      have hlt := lt_length_of_getD_ne (by rw [ha]; simp)
      have hsame : decodedAfter D d0 body (n + 1) = (.ok (), d1, buf1, items1) := by
        rw [hnext, decide_eq_false (by omega)]
        simpa [FramePoll.bytes, tryDecode] using hfix
      rw [pollInner_of_pending (b := { b with decoder := d1, decodeBuffer := buf1, handled := items1 }) hpoll, hsame]
      exact ⟨rfl, rfl, rfl, fun _ => ⟨rfl, by rw [decide_eq_false (by omega : ¬ body.length < n + 1)]; simpa using hf,
        fun _ => ⟨hfix.trans hsame.symm, by rw [hfix]⟩, fun h => (by simp [hf] at h)⟩⟩
    · -- a frame: its bytes are decoded
      have hlt := lt_length_of_getD_ne (by rw [ha]; simp)
      rw [pollInner_of_frame (b := { b with decoder := d1, decodeBuffer := buf1, handled := items1 }) hpoll]
      exact ParserInv.of_sendDecoded hD (.frame f) rfl
        (by rw [decide_eq_false (by omega : ¬ body.length < n + 1)]; simpa using hf)
        (by rw [hnext, decide_eq_false (by omega)]; simp [FramePoll.bytes, hf])
    · -- an error of the inner body: passed on, nothing read
      have hlt := lt_length_of_getD_ne (by rw [ha]; simp)
      have hsame : decodedAfter D d0 body (n + 1) = (.ok (), d1, buf1, items1) := by
        rw [hnext, decide_eq_false (by omega)]
        simpa [FramePoll.bytes, tryDecode] using hfix
      rw [pollInner_of_bodyError (b := { b with decoder := d1, decodeBuffer := buf1, handled := items1 }) hpoll, hsame]
      exact ⟨rfl, rfl, rfl, fun _ => ⟨rfl, by rw [decide_eq_false (by omega : ¬ body.length < n + 1)]; simpa using hf,
        fun _ => ⟨hfix.trans hsame.symm, by rw [hfix]⟩, fun h => (by simp [hf] at h)⟩⟩
    · -- the end: `finished` and the pass of `decode_eof`
      have hn' : n = body.length := by
        by_contra hne
        exact hbody (ha ▸ getD_mem (by omega))
      subst hn'
      rw [pollInner_of_done (b := { b with decoder := d1, decodeBuffer := buf1, handled := items1 }) hpoll]
      exact ParserInv.of_sendDecoded hD .done rfl (by simp) (by rw [hnext]; simp [FramePoll.bytes])
  · -- finished: past the end, nothing changes
    have hlt : body.length < n := by
      have hfin := h.finished_eq
      rw [hf] at hfin
      exact of_decide_eq_true hfin.symm
    have hsame : decodedAfter D d0 body (n + 1) = decodedAfter D d0 body n := decodedAfter_succ_of_lt hlt
    rw [pollFrame_of_finished hf, getD_of_le (Nat.le_of_lt hlt), hsame, h.ended hf]
    refine ⟨rfl, rfl, rfl, fun _ => ⟨?_, ?_, fun h => (by simp [hf] at h), fun _ => hsame ▸ h.ended hf⟩⟩
    · rw [h.body_eq, List.drop_of_length_le (by omega), List.drop_of_length_le (by omega)]
    · rw [hf, decide_eq_true (by omega)]

lemma decodedAfter_ok_of_succ (hok : (decodedAfter D d0 body (n + 1)).1 = .ok ()) :
    (decodedAfter D d0 body n).1 = .ok () := by
  rcases hr : decodedAfter D d0 body n with ⟨(e | _), d, buf, items⟩
  · obtain ⟨d', buf', hr'⟩ := decodedAfter_succ_of_error hD hr
    rw [hr'] at hok
    cases hok
  · rfl

theorem run_parserInv (hbody : FramePoll.done ∉ body) :
    ∀ n, (decodedAfter D d0 body n).1 = .ok () →
      ParserInv D d0 body n (run D n (parser body d0)).2 ∧
      (run D n (parser body d0)).1 = (List.range n).map fun j =>
        ((body.getD j .done).mapError .body, if body.length < j then none else some (body.getD j .done))
  | 0, _ => ⟨parserInv_init D d0 body, rfl⟩
  | n + 1, hok => by
    obtain ⟨hinv, hout⟩ := run_parserInv hbody n (decodedAfter_ok_of_succ hD hok)
    obtain ⟨hyield, hpolled, -, hinv'⟩ := hinv.step hD hbody (decodedAfter_ok_of_succ hD hok)
    refine ⟨hinv' hok, ?_⟩
    rw [run]
    dsimp only
    rw [hout, hyield, hpolled, hinv.finished_eq, hok, List.range_succ, List.map_append]
    simp [sent]

/-- The poll after `n` polls with no decode error: the answer it reads, or the decode error it
meets in its place, and the items the decoder makes at once of the first `n + 1` answers. -/
theorem run_parser_succ (hbody : FramePoll.done ∉ body) (n : Nat) (hok : (decodedAfter D d0 body n).1 = .ok ()) :
    (run D (n + 1) (parser body d0)).1 = (run D n (parser body d0)).1 ++
      [(sent (decodedAfter D d0 body (n + 1)).1 (body.getD n .done),
        if body.length < n then none else some (body.getD n .done))] ∧
    (run D (n + 1) (parser body d0)).2.handled = (decodedAfter D d0 body (n + 1)).2.2.2 := by
  obtain ⟨hinv, -⟩ := run_parserInv hD hbody n hok
  obtain ⟨hyield, hpolled, hhandled, -⟩ := hinv.step hD hbody hok
  rw [run]
  dsimp only
  rw [hyield, hpolled, hhandled, hinv.finished_eq]
  simp

end Invariant

end PassthroughBody

/-! ### The two bodies -/

/-- Both observing bodies over any inner body (frames, errors and `Pending`, then the end) with
an incremental decoder, after any number of polls. -/
theorem passthrough_bodies_observe (D : Decoder δ ι εd) (hD : Library.Codec.Incremental D.decode) (d0 : δ)
    (body : List (FramePoll εb τ)) (hbody : FramePoll.done ∉ body) (n : Nat) :
    let full := FullPassthroughBody.run D n (fullPassthroughParser body d0)
    -- `full_passthrough_parser` yields the inner body's answers, unchanged and in order, then the end
    full.1.map Prod.fst = (List.range n).map (body.getD · .done) ∧
    -- the handler has seen what the decoder makes at once of the answers read, up to its first error
    full.2.handled = (decodedAfter D d0 body n).2.2.2 ∧
    -- the inner body is polled past its end exactly when the decode loop over its bytes fails
    (FullPassthroughBody.LoopFails D d0 body = false → full.1.filterMap Prod.snd = (body ++ [FramePoll.done]).take n) ∧
    (FullPassthroughBody.LoopFails D d0 body = true →
      full.1.filterMap Prod.snd = (List.range n).map (body.getD · .done)) ∧
    -- `parser`, up to its first decode error, which it yields in place of the answer it reads
    ∀ m, (decodedAfter D d0 body m).1 = .ok () →
      let part := PassthroughBody.run D (m + 1) (parser body d0)
      part.1.map Prod.fst = (List.range m).map (fun j => (body.getD j .done).mapError .body) ++
        [PassthroughBody.sent (decodedAfter D d0 body (m + 1)).1 (body.getD m .done)] ∧
      part.2.handled = (decodedAfter D d0 body (m + 1)).2.2.2 ∧
      part.1.filterMap Prod.snd = (body ++ [FramePoll.done]).take (m + 1) := by
  intro full
  obtain ⟨hinv, hout⟩ := FullPassthroughBody.run_fullInv hD d0 hbody n
  have hpolled : full.1.filterMap Prod.snd = (List.range n).filterMap fun j =>
      if decide (body.length < j) && !FullPassthroughBody.LoopFails D d0 body then none
      else some (body.getD j .done) := by
    rw [hout, List.filterMap_map]
    rfl
  refine ⟨by rw [hout, List.map_map]; rfl, hinv.handled_eq, fun hf => ?_, fun hf => ?_, fun m hok => ?_⟩
  · rw [hpolled, ← filterMap_range_getD]
    simp [hf]
  · rw [hpolled, hf]
    simp
  · obtain ⟨-, hout⟩ := PassthroughBody.run_parserInv hD hbody m hok
    obtain ⟨hrun, hhandled⟩ := PassthroughBody.run_parser_succ hD hbody m hok
    refine ⟨by rw [hrun, List.map_append, hout, List.map_map]; rfl, hhandled, ?_⟩
    rw [hrun, List.filterMap_append, hout, List.filterMap_map, ← filterMap_range_getD, List.range_succ,
      List.filterMap_append]
    rfl

def rejectCall : Call Unit UInt8 Unit Unit where
  call d buf := if buf = [] then (.ok none, d, buf) else (.error (), d, buf)
  shrinks := by
    intro d buf x h
    by_cases hb : buf = [] <;> simp [hb] at h

lemma incremental_rejectCall : Library.Codec.Incremental rejectCall where
  item h := by
    rename_i d buf x d' buf'
    by_cases hb : buf = [] <;> simp [rejectCall, hb] at h
  wait h extra := by
    rename_i d buf d' buf'
    by_cases hb : buf = []
    · -- the decoder's state is `()`: only the buffer can differ
      simp only [rejectCall, hb, if_true, Prod.mk.injEq] at h
      obtain ⟨-, -, rfl⟩ := h
      rw [hb]
    · simp [rejectCall, hb] at h
  error h extra := by
    rename_i d buf e d' buf'
    by_cases hb : buf = []
    · simp [rejectCall, hb] at h
    · simp only [rejectCall, hb, if_false, Prod.mk.injEq] at h
      obtain ⟨-, -, rfl⟩ := h
      simp [rejectCall, hb]

def rejectAll : Decoder Unit Unit Unit := ⟨rejectCall, rejectCall⟩

def oneByte : List (FramePoll Unit Unit) := [.frame (.data [0])]

lemma loopFails_oneByte : FullPassthroughBody.LoopFails rejectAll () oneByte = true := by
  rw [FullPassthroughBody.LoopFails, Library.Codec.loop_of_error (by rfl)]
  rfl

/-- The decode error on the frame's byte keeps `finished` from being set at the end: the third
poll polls the inner body again after it returned `None`. -/
theorem passthrough_bodies_observe_rejectAll :
    Library.Codec.Incremental rejectAll.decode ∧ FramePoll.done ∉ oneByte ∧
    (FullPassthroughBody.run rejectAll 3 (fullPassthroughParser oneByte ())).1.filterMap Prod.snd =
      [.frame (.data [0]), .done, .done] := by
  have h := passthrough_bodies_observe rejectAll incremental_rejectCall () oneByte (by decide) 3
  refine ⟨incremental_rejectCall, by decide, ?_⟩
  rw [h.2.2.2.1 loopFails_oneByte]
  rfl

end AgentGateway.Llm.Passthrough
