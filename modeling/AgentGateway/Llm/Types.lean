import Mathlib.Data.List.AList

/-! The chat-completion chunks and Messages stream events `translate_stream` reads and writes. -/

namespace AgentGateway.Llm.Types

inductive FinishReason where
  | stop
  | length
  | toolCalls
  | contentFilter
  | functionCall
  deriving DecidableEq, Repr

structure Usage where
  promptTokens : Nat
  completionTokens : Nat
  deriving DecidableEq, Repr

structure FunctionCallStream where
  name : Option String
  arguments : Option String
  deriving DecidableEq, Repr

structure ToolCallChunk where
  index : Nat
  id : Option String
  function : Option FunctionCallStream
  deriving DecidableEq, Repr

structure StreamResponseDelta where
  content : Option String
  toolCalls : Option (List ToolCallChunk)
  deriving DecidableEq, Repr

structure ChatChoiceStream where
  delta : StreamResponseDelta
  finishReason : Option FinishReason
  deriving DecidableEq, Repr

structure StreamResponse where
  id : String
  model : String
  choices : List ChatChoiceStream
  usage : Option Usage
  deriving DecidableEq, Repr

inductive SseJsonEvent (I : Type) where
  | data (obj : Option I)
  | done
  deriving DecidableEq, Repr

inductive StopReason where
  | endTurn
  | maxTokens
  | stopSequence
  | toolUse
  | refusal
  | pauseTurn
  | modelContextWindowExceeded
  deriving DecidableEq, Repr

inductive ContentBlock where
  | text
  | toolUse (id name : String)
  deriving DecidableEq, Repr

inductive ContentBlockDelta where
  | textDelta (text : String)
  | inputJsonDelta (partialJson : String)
  deriving DecidableEq, Repr

inductive MessagesStreamEvent where
  | messageStart (id model : String)
  | contentBlockStart (index : Nat) (contentBlock : ContentBlock)
  | contentBlockDelta (index : Nat) (delta : ContentBlockDelta)
  | contentBlockStop (index : Nat)
  | messageDelta (stopReason : StopReason) (inputTokens outputTokens : Nat)
  | messageStop
  | ping
  deriving DecidableEq, Repr

end AgentGateway.Llm.Types
