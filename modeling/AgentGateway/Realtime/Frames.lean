import AgentGateway.Library.Transducer

/-! `WsFrameAccumulator::drain_frames` over whole frames, with the decoder's opcode tracking
as a parameter. -/

namespace AgentGateway.Realtime.Frames

open Library.Transducer

inductive Opcode where
  | continuation
  | text
  | binary
  | connectionClose
  | ping
  | pong
  deriving DecidableEq, Repr

structure Frame (β : Type) where
  opcode : Opcode
  fin : Bool
  raw : β
  payload : β
  deriving DecidableEq, Repr

inductive WsCompletedFrame (β : Type) where
  | text (raw payload : β)
  | other (raw : β)
  deriving DecidableEq, Repr

/-- How the decoder reports the opcode of a frame's `End` event (`original_opcode`), from the state
of the fragmented message in progress, which each frame's opcode and fin bit move on. A frame that
is not a continuation reports its own opcode. -/
structure OpcodeTracking where
  State : Type
  init : State
  original : State → Opcode → Opcode
  next : State → Opcode → Bool → State
  original_self : ∀ s op, op ≠ .continuation → original s op = op

def originalOpcode (message : Option Opcode) : Opcode → Opcode
  | .continuation => message.getD .continuation
  | op => op

/-- The fragmented message in progress after a frame: a non-final data frame starts one, a final
frame ends it, and control frames may come between its fragments. -/
def nextMessage (message : Option Opcode) (op : Opcode) (fin : Bool) : Option Opcode :=
  match op with
  | .text | .binary => if fin then none else some op
  | .continuation => if fin then none else message
  | _ => message

def sansIoTracking : OpcodeTracking where
  State := Option Opcode
  init := none
  original := originalOpcode
  next := nextMessage
  original_self _ op h := by cases op <;> simp_all [originalOpcode]

variable (T : OpcodeTracking) {β : Type}

/-- The `End` event of a frame: a final frame of a text message gives its raw bytes with its
payload; any other frame gives its raw bytes alone, and the payload gathered for it is cleared. -/
def completeFrame (s : T.State) (f : Frame β) : WsCompletedFrame β :=
  if T.original s f.opcode = .text ∧ f.fin = true then .text f.raw f.payload else .other f.raw

def drainStep (s : T.State) (f : Frame β) : T.State × List (WsCompletedFrame β) :=
  (T.next s f.opcode f.fin, [completeFrame T s f])

def drainFrames (frames : List (Frame β)) : List (WsCompletedFrame β) :=
  (run (drainStep T) T.init frames).2

def Frame.Whole (f : Frame β) : Prop := f.fin = true ∧ f.opcode ≠ .continuation

variable {T}

lemma completeFrame_whole {s : T.State} {f : Frame β} (hf : f.Whole) :
    completeFrame T s f = if f.opcode = .text then .text f.raw f.payload else .other f.raw := by
  obtain ⟨hfin, hop⟩ := hf
  simp [completeFrame, T.original_self s f.opcode hop, hfin]

theorem drainFrames_whole :
    ∀ (frames : List (Frame β)), (∀ f ∈ frames, f.Whole) → ∀ s : T.State,
      (run (drainStep T) s frames).2 =
        frames.map fun f => if f.opcode = .text then .text f.raw f.payload else .other f.raw
  | [], _, _ => rfl
  | f :: frames, hw, s => by
    rw [run_cons, List.map_cons, drainFrames_whole frames (fun g hg => hw g (List.mem_cons_of_mem f hg))]
    simp [drainStep, completeFrame_whole (hw f List.mem_cons_self)]

lemma drainFrames_fragmented (r₁ p₁ r₂ p₂ : β) :
    drainFrames sansIoTracking [⟨.text, false, r₁, p₁⟩, ⟨.continuation, true, r₂, p₂⟩] =
      [.other r₁, .text r₂ p₂] := by
  simp [drainFrames, run_cons, drainStep, completeFrame, sansIoTracking, originalOpcode, nextMessage]

end AgentGateway.Realtime.Frames
