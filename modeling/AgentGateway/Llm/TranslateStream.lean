import Mathlib.Data.List.Sort
import AgentGateway.Library.Transducer
import AgentGateway.Llm.Types

/-! `from_messages::translate_stream` of `conversion/completions.rs`, one definition per helper. -/

namespace AgentGateway.Llm.TranslateStream

open AgentGateway.Llm.Types Library.Transducer

structure PendingToolCall where
  id : Option String
  name : Option String
  pendingJson : String
  deriving DecidableEq, Repr

structure StreamState where
  sentMessageStart : Bool
  sentMessageStop : Bool
  nextBlockIndex : Nat
  textBlockIndex : Option Nat
  toolBlockIndices : AList fun _ : Nat => Nat
  openToolBlocks : List Nat
  pendingToolCalls : AList fun _ : Nat => PendingToolCall
  pendingStopReason : Option StopReason
  pendingUsage : Option Usage

def StreamState.default : StreamState := ⟨false, false, 0, none, ∅, [], ∅, none, none⟩

abbrev Out := StreamState × List MessagesStreamEvent

def closeTextBlock (st : StreamState) : Out :=
  match st.textBlockIndex with
  | some index => ({ st with textBlockIndex := none }, [.contentBlockStop index])
  | none => (st, [])

def openToolBlockIndices (st : StreamState) : List (Nat × Nat) :=
  (st.openToolBlocks.filterMap fun t => (st.toolBlockIndices.lookup t).map (t, ·)).insertionSort
    fun a b => a.2 ≤ b.2

def closeToolBlock (st : StreamState) (block : Nat × Nat) : Out :=
  ({ st with openToolBlocks := st.openToolBlocks.erase block.1 }, [.contentBlockStop block.2])

def closeAllToolBlocks (st : StreamState) : Out :=
  run closeToolBlock st (openToolBlockIndices st)

def openTextBlock (st : StreamState) : Out × Nat :=
  match st.textBlockIndex with
  | some index => ((st, []), index)
  | none =>
    let (st, evs) := closeAllToolBlocks st
    let index := st.nextBlockIndex
    (({ st with nextBlockIndex := index + 1, textBlockIndex := some index },
      evs ++ [.contentBlockStart index .text]), index)

/-- `tool_block_indices.entry(tool_index).or_insert_with(..)`: the block index of a tool call,
taking the next free one the first time. -/
def toolBlockIndex (st : StreamState) (toolIndex : Nat) : StreamState × Nat :=
  match st.toolBlockIndices.lookup toolIndex with
  | some index => (st, index)
  | none =>
    ({ st with nextBlockIndex := st.nextBlockIndex + 1,
               toolBlockIndices := st.toolBlockIndices.insert toolIndex st.nextBlockIndex },
      st.nextBlockIndex)

def openToolBlock (st : StreamState) (toolIndex : Nat) (id name : String) : Out × Nat :=
  let (st, evs) := closeTextBlock st
  let (st, index) := toolBlockIndex st toolIndex
  if toolIndex ∈ st.openToolBlocks then ((st, evs), index)
  else
    (({ st with openToolBlocks := st.openToolBlocks.insert toolIndex },
      evs ++ [.contentBlockStart index (.toolUse id name)]), index)

def flushMessageEnd (st : StreamState) (force : Bool) : Out :=
  if st.sentMessageStop then (st, [])
  else
    let stopReason := match st.pendingStopReason with
      | some stopReason => some stopReason
      | none => if force then some StopReason.endTurn else none
    match stopReason with
    | none => (st, [])
    | some stopReason =>
      if st.pendingUsage.isNone && !force then (st, [])
      else
        let usage := st.pendingUsage
        let st := { st with pendingStopReason := none, pendingUsage := none }
        let (st, evs₁) := closeTextBlock st
        let (st, evs₂) := closeAllToolBlocks st
        let (inputTokens, outputTokens) :=
          (usage.map fun u => (u.promptTokens, u.completionTokens)).getD (0, 0)
        ({ st with sentMessageStop := true },
          evs₁ ++ evs₂ ++ [.messageDelta stopReason inputTokens outputTokens, .messageStop])

def updatePending (entry : PendingToolCall) (toolCall : ToolCallChunk) : PendingToolCall :=
  let entry := match toolCall.id with
    | some id => { entry with id := some id }
    | none => entry
  match toolCall.function with
  | some function =>
    let entry := match function.name with
      | some name => { entry with name := some name }
      | none => entry
    match function.arguments with
    | some args => { entry with pendingJson := entry.pendingJson ++ args }
    | none => entry
  | none => entry

/-- One tool-call chunk: the block opens once the call has a name, and the arguments gathered so
far go out as one `input_json_delta`. -/
def handleToolCall (st : StreamState) (toolCall : ToolCallChunk) : Out :=
  let toolIndex := toolCall.index
  let entry := updatePending ((st.pendingToolCalls.lookup toolIndex).getD ⟨none, none, ""⟩) toolCall
  let shouldOpen := entry.name.isSome
  let pendingJson := if shouldOpen && !entry.pendingJson.isEmpty then some entry.pendingJson else none
  let stored := if pendingJson.isSome then { entry with pendingJson := "" } else entry
  let st := { st with pendingToolCalls := st.pendingToolCalls.insert toolIndex stored }
  if shouldOpen then
    let id := entry.id.getD ("tool_call_" ++ toString toolIndex)
    let name := entry.name.getD ""
    let ((st, evs), index) := openToolBlock st toolIndex id name
    match pendingJson with
    | some json => (st, evs ++ [.contentBlockDelta index (.inputJsonDelta json)])
    | none => (st, evs)
  else (st, [])

def stopReasonOf : FinishReason → StopReason
  | .stop => .endTurn
  | .length => .maxTokens
  | .toolCalls => .toolUse
  | .contentFilter => .refusal
  | .functionCall => .toolUse

def handleContent (st : StreamState) : Option String → Out
  | some content =>
    if content.isEmpty then (st, [])
    else
      let ((st, evs), index) := openTextBlock st
      (st, evs ++ [.contentBlockDelta index (.textDelta content)])
  | none => (st, [])

def handleChoice (st : StreamState) (choice : ChatChoiceStream) : Out :=
  let (st, evs₁) := handleContent st choice.delta.content
  let (st, evs₂) := run handleToolCall st (choice.delta.toolCalls.getD [])
  let st := match choice.finishReason with
    | some finishReason => { st with pendingStopReason := some (stopReasonOf finishReason) }
    | none => st
  (st, evs₁ ++ evs₂)

def startMessage (st : StreamState) (f : StreamResponse) : Out :=
  if !st.sentMessageStart then
    ({ st with sentMessageStart := true }, [.messageStart f.id f.model])
  else (st, [])

def recordUsage (st : StreamState) (f : StreamResponse) : StreamState :=
  match f.usage with
  | some usage => { st with pendingUsage := some usage }
  | none => st

def handleFirstChoice (st : StreamState) (f : StreamResponse) : Out :=
  match f.choices.head? with
  | some choice => handleChoice st choice
  | none => (st, [])

def flushIfReady (st : StreamState) : Out :=
  if st.pendingStopReason.isSome && st.pendingUsage.isSome then flushMessageEnd st false
  else (st, [])

def handleChunk (st : StreamState) (f : StreamResponse) : Out :=
  let (st, evs₀) := startMessage st f
  let st := recordUsage st f
  let (st, evs₁) := handleFirstChoice st f
  let (st, evs₂) := flushIfReady st
  (st, evs₀ ++ evs₁ ++ evs₂)

def handleEvent (st : StreamState) : SseJsonEvent StreamResponse → Out
  | .done => flushMessageEnd st true
  | .data none => (st, [])
  | .data (some f) => handleChunk st f

def translateStream (evts : List (SseJsonEvent StreamResponse)) : List MessagesStreamEvent :=
  (run handleEvent StreamState.default evts).2

end AgentGateway.Llm.TranslateStream
