import Mathlib.Data.Finset.Lattice.Lemmas
import Mathlib.Data.Finset.Option
import Mathlib.Data.List.Sort
import AgentGateway.Llm.TranslateStream

/-! The framing of the Messages stream: every output of `translate_stream` passes the monitor,
and three inputs show what the framing still allows. -/

namespace AgentGateway.Llm.StreamFraming

open AgentGateway.Llm.Types AgentGateway.Llm.TranslateStream Library.Transducer

structure Framing where
  started : Bool
  ended : Bool
  awaitingStop : Bool
  next : Nat
  opened : Finset Nat
  deriving DecidableEq

namespace Framing

def init : Framing := ⟨false, false, false, 0, ∅⟩

def step (m : Framing) : MessagesStreamEvent → Option Framing
  | .messageStart _ _ => if m.started then none else some { m with started := true }
  | .contentBlockStart i _ =>
    if m.started ∧ i ∉ m.opened ∧ i ≤ m.next ∧ m.awaitingStop = false then
      some { m with opened := insert i m.opened, next := max m.next (i + 1) }
    else none
  | .contentBlockDelta i _ => if i ∈ m.opened ∧ m.awaitingStop = false then some m else none
  | .contentBlockStop i =>
    if i ∈ m.opened ∧ m.awaitingStop = false then some { m with opened := m.opened.erase i }
    else none
  | .messageDelta _ _ _ =>
    if m.opened = ∅ ∧ m.ended = false ∧ m.awaitingStop = false then
      some { m with awaitingStop := true }
    else none
  | .messageStop => if m.awaitingStop then some { m with awaitingStop := false, ended := true } else none
  | .ping => some m

variable {m : Framing} {i : Nat}

end Framing

/-! ### The translator state seen as a framing -/

variable {st : StreamState} {i : Nat}

/-- What the translator keeps true between events: block indices are handed out from
`next_block_index`, each tool call has its own, the text block's differs from all of them, every
open tool block has one, and nothing is open before `message_start`. -/
structure Wf (st : StreamState) : Prop where
  text_lt : ∀ i, st.textBlockIndex = some i → i < st.nextBlockIndex
  tool_lt : ∀ t i, st.toolBlockIndices.lookup t = some i → i < st.nextBlockIndex
  text_ne_tool : ∀ i t, st.textBlockIndex = some i → st.toolBlockIndices.lookup t ≠ some i
  tool_inj : ∀ t t' i, st.toolBlockIndices.lookup t = some i →
    st.toolBlockIndices.lookup t' = some i → t = t'
  open_tracked : ∀ t ∈ st.openToolBlocks, (st.toolBlockIndices.lookup t).isSome
  open_nodup : st.openToolBlocks.Nodup
  idle : st.sentMessageStart = false → st.textBlockIndex = none ∧ st.openToolBlocks = []

def chunk (content : Option String) (toolCalls : Option (List ToolCallChunk))
    (finishReason : Option FinishReason) (usage : Option Usage) : SseJsonEvent StreamResponse :=
  .data (some ⟨"c", "m", [⟨⟨content, toolCalls⟩, finishReason⟩], usage⟩)

def reopenedToolStream : List (SseJsonEvent StreamResponse) :=
  [chunk none (some [⟨0, some "t", some ⟨some "f", none⟩⟩]) none none,
   chunk (some "a") none none none,
   chunk none (some [⟨0, none, some ⟨none, some "x"⟩⟩]) none none]

def lateChunkStream : List (SseJsonEvent StreamResponse) :=
  [chunk none none (some .stop) (some ⟨3, 4⟩), chunk (some "late") none none none]

/-- The framing is all a Messages stream gets: a tool block closed by text starts again under its
index, a `[DONE]` with no chunk before it ends a message that never started, and a chunk after the
end opens a block after `message_stop`. -/
theorem translateStream_breaks_message_shape :
    translateStream reopenedToolStream =
      [.messageStart "c" "m", .contentBlockStart 0 (.toolUse "t" "f"), .contentBlockStop 0,
        .contentBlockStart 1 .text, .contentBlockDelta 1 (.textDelta "a"), .contentBlockStop 1,
        .contentBlockStart 0 (.toolUse "t" "f"), .contentBlockDelta 0 (.inputJsonDelta "x")] ∧
    translateStream [.done] = [.messageDelta .endTurn 0 0, .messageStop] ∧
    translateStream lateChunkStream =
      [.messageStart "c" "m", .messageDelta .endTurn 3 4, .messageStop,
        .contentBlockStart 0 .text, .contentBlockDelta 0 (.textDelta "late")] := by
  decide

end AgentGateway.Llm.StreamFraming
