import AgentGateway.Realtime.Frames
import AgentGateway.Library.Text

/-! The two reader loops of `guarded_realtime_proxy` (`parse/websocket.rs`); payload parsing,
request guards and window evaluation are parameters. -/

namespace AgentGateway.Realtime.GuardedProxy

open AgentGateway.Realtime.Frames Library.Transducer
open Library.Text (isWhitespace)

/-! ### Events the proxy reads -/

inductive UserMessageContent where
  | inputText (text : String)
  | other
  deriving DecidableEq, Repr

inductive RealtimeConversationItem where
  | userMessage (content : List UserMessageContent)
  | other
  deriving DecidableEq, Repr

inductive RealtimeClientEvent where
  | conversationItemCreate (item : RealtimeConversationItem)
  | other
  deriving DecidableEq, Repr

inductive RealtimeServerEvent where
  | responseOutputTextDelta (delta : String)
  | responseOutputTextDone
  | other
  deriving DecidableEq, Repr

/-- What a reader loop writes: a frame it forwards, a guardrail error event to the client, or a
`response.cancel` to the server. -/
inductive Send (β body : Type) where
  | toServer (raw : β)
  | toClient (raw : β)
  | blockedToClient (body : body)
  | cancelToServer
  deriving DecidableEq, Repr

def trim (s : String) : String :=
  String.ofList ((s.toList.dropWhile isWhitespace).reverse.dropWhile isWhitespace).reverse

def inputText : RealtimeConversationItem → String
  | .userMessage content =>
    content.foldl (fun acc c => match c with
      | .inputText t => acc ++ t ++ " "
      | .other => acc) ""
  | .other => ""

def tailChars (s : String) (maxBytes : Nat) : String :=
  String.ofList (go s.toList)
where
  go : List Char → List Char
    | [] => []
    | c :: cs => if (String.ofList (c :: cs)).utf8ByteSize ≤ maxBytes then c :: cs else go cs

def defaultEvalThreshold : Nat := 1024

def overlapBytes : Nat := 256

variable {β body : Type}

/-! ### Client to server -/

section ClientToServer

variable (T : OpcodeTracking) (parseClient : β → Option RealtimeClientEvent) (requestGuard : String → Option body)

/-- One completed client frame: a `conversation.item.create` whose user text the guards reject
is answered with an error event and not forwarded; every other frame goes to the server. -/
def clientFrame : WsCompletedFrame β → List (Send β body)
  | .text raw payload =>
    match parseClient payload with
    | some (.conversationItemCreate item) =>
      if !(inputText item).isEmpty then
        match requestGuard (trim (inputText item)) with
        | some blocked => [.blockedToClient blocked]
        | none => [.toServer raw]
      else [.toServer raw]
    | _ => [.toServer raw]
  | .other raw => [.toServer raw]

def clientToServer (frames : List (Frame β)) : List (Send β body) :=
  (drainFrames T frames).flatMap (clientFrame parseClient requestGuard)

theorem clientFrame_toServer {raw payload : β} {item : RealtimeConversationItem}
    (hparse : parseClient payload = some (.conversationItemCreate item))
    (htext : (inputText item).isEmpty = false) :
    Send.toServer raw ∈ clientFrame parseClient requestGuard (.text raw payload) ↔
      requestGuard (trim (inputText item)) = none := by
  simp only [clientFrame, hparse, htext, Bool.not_false, if_true]
  cases requestGuard (trim (inputText item)) <;> simp

lemma eq_raw_of_toServer_mem {r raw payload : β}
    (h : Send.toServer r ∈ clientFrame parseClient requestGuard (.text raw payload)) : r = raw := by
  simp only [clientFrame] at h
  split at h
  · split at h
    · split at h <;> simp_all
    · simp_all
  · simp_all

/-- Without fragmented messages, what the guards reject never reaches the server. -/
theorem clientToServer_guarded (frames : List (Frame β)) (hw : ∀ f ∈ frames, f.Whole)
    (f : Frame β) (htext : f.opcode = .text) {item : RealtimeConversationItem}
    (hparse : parseClient f.payload = some (.conversationItemCreate item))
    (hinput : (inputText item).isEmpty = false) (hblocked : requestGuard (trim (inputText item)) ≠ none)
    (hraw : ∀ g ∈ frames, g.raw = f.raw → g.opcode = f.opcode ∧ g.payload = f.payload) :
    Send.toServer f.raw ∉ clientToServer T parseClient requestGuard frames := by
  rw [clientToServer, drainFrames, drainFrames_whole frames hw, List.flatMap_map]
  intro hmem
  obtain ⟨g, hg, hsend⟩ := List.mem_flatMap.mp hmem
  by_cases hgt : g.opcode = .text
  · rw [if_pos hgt] at hsend
    -- a frame forwarding these bytes has them as its own, hence the payload of `f`
    have hr := eq_raw_of_toServer_mem parseClient requestGuard hsend
    obtain ⟨-, hpay⟩ := hraw g hg hr.symm
    rw [hpay, ← hr] at hsend
    exact hblocked ((clientFrame_toServer parseClient requestGuard hparse hinput).mp hsend)
  · simp only [hgt, if_false, clientFrame, List.mem_singleton, Send.toServer.injEq] at hsend
    exact hgt ((hraw g hg hsend.symm).1.trans htext)

end ClientToServer

/-! ### Server to client -/

def Within (d w : String) : Prop := ∃ pre post, w = pre ++ d ++ post

lemma Within.append_right {d w : String} (h : Within d w) (x : String) : Within d (w ++ x) := by
  obtain ⟨pre, post, rfl⟩ := h
  exact ⟨pre, post ++ x, by simp [String.append_assoc]⟩

lemma Within.append_left {d w : String} (h : Within d w) (x : String) : Within d (x ++ w) := by
  obtain ⟨pre, post, rfl⟩ := h
  exact ⟨x ++ pre, post, by simp [String.append_assoc]⟩

lemma Within.right (w d : String) : Within d (w ++ d) := ⟨w, "", by simp⟩

lemma Within.trans {d v w : String} (h₁ : Within d v) (h₂ : Within v w) : Within d w := by
  obtain ⟨pre, post, rfl⟩ := h₁
  obtain ⟨pre', post', rfl⟩ := h₂
  exact ⟨pre' ++ pre, post ++ post', by simp [String.append_assoc]⟩

lemma Within.eq_empty {d : String} (h : Within d "") : d = "" := by
  obtain ⟨pre, post, h⟩ := h
  have hl := congrArg String.toList h
  simp only [String.toList_append, String.toList_empty] at hl
  have hd : d.toList = [] := (List.append_eq_nil_iff.mp (List.append_eq_nil_iff.mp hl.symm).1).2
  simpa using hd

/-- The state of the server reader: the held delta frames, the text they carry since the last
evaluation, the tail of the last window, and whether the current response was blocked. -/
structure ServerState (β : Type) where
  deltaHold : List β
  pendingText : String
  overlapTail : String
  responseBlocked : Bool

def ServerState.init : ServerState β := ⟨[], "", "", false⟩

section ServerToClient

variable (T : OpcodeTracking) (parseServer : β → Option RealtimeServerEvent) (evaluateWindow : String → Option body)

def blockedState : ServerState β := ⟨[], "", "", true⟩

/-- A `response.output_text.delta`: held, and once enough text is pending, evaluated with the
tail of the previous window in front; the held frames go out when the window passes. -/
def serverDelta (st : ServerState β) (raw : β) (delta : String) : ServerState β × List (Send β body) :=
  if st.responseBlocked then (st, [])
  else
    let st := { st with pendingText := st.pendingText ++ delta, deltaHold := st.deltaHold ++ [raw] }
    if st.pendingText.utf8ByteSize ≥ defaultEvalThreshold then
      let window := st.overlapTail ++ st.pendingText
      match evaluateWindow window with
      | some blocked => (blockedState, [.blockedToClient blocked, .cancelToServer])
      | none =>
        ({ st with deltaHold := [], pendingText := "", overlapTail := tailChars window overlapBytes },
          st.deltaHold.map .toClient)
    else (st, [])

/-- A `response.output_text.done`: the rest of the text is evaluated, then the held frames and
the done frame go out; after a block the done frame is dropped and the block lifted. -/
def serverDone (st : ServerState β) (raw : β) : ServerState β × List (Send β body) :=
  if st.responseBlocked then (ServerState.init, [])
  else
    let blocked := if !st.pendingText.isEmpty then evaluateWindow (st.overlapTail ++ st.pendingText)
      else none
    match blocked with
    | some blocked => (blockedState, [.blockedToClient blocked, .cancelToServer])
    | none => (ServerState.init, st.deltaHold.map .toClient ++ [.toClient raw])

def serverFrame (st : ServerState β) : WsCompletedFrame β → ServerState β × List (Send β body)
  | .text raw payload =>
    match parseServer payload with
    | some (.responseOutputTextDelta delta) => serverDelta evaluateWindow st raw delta
    | some .responseOutputTextDone => serverDone evaluateWindow st raw
    | _ => (st, [.toClient raw])
  | .other raw => (st, [.toClient raw])

def serverToClient (frames : List (Frame β)) : List (Send β body) :=
  (run (serverFrame parseServer evaluateWindow) ServerState.init (drainFrames T frames)).2

def deltaOf (f : Frame β) : Option String :=
  if f.opcode = .text then
    match parseServer f.payload with
    | some (.responseOutputTextDelta d) => some d
    | _ => none
  else none

variable (frames : List (Frame β))

def HeldCovered (st : ServerState β) : Prop :=
  ∀ r ∈ st.deltaHold, ∃ f ∈ frames, f.raw = r ∧ ∃ d, deltaOf parseServer f = some d ∧
    Within d st.pendingText

/-- A frame sent to the client whose bytes are those of a delta frame with text: that text lies in
a window the evaluators passed. -/
def Evaluated (o : Send β body) : Prop :=
  ∀ f ∈ frames, o = .toClient f.raw → ∀ d, deltaOf parseServer f = some d → d ≠ "" →
    ∃ w, evaluateWindow w = none ∧ Within d w

-- the raw bytes of a frame determine its opcode and its payload
variable (hraw : ∀ f ∈ frames, ∀ g ∈ frames, f.raw = g.raw → f.opcode = g.opcode ∧ f.payload = g.payload)

include hraw in
lemma deltaOf_eq_of_raw {f g : Frame β} (hf : f ∈ frames) (hg : g ∈ frames) (h : f.raw = g.raw) :
    deltaOf parseServer f = deltaOf parseServer g := by
  obtain ⟨hop, hpay⟩ := hraw f hf g hg h
  simp [deltaOf, hop, hpay]

include hraw in
lemma evaluated_of_deltaOf_none {f : Frame β} (hf : f ∈ frames) (hd : deltaOf parseServer f = none) :
    Evaluated parseServer evaluateWindow frames (.toClient f.raw) := by
  intro g hg heq d hgd _
  rw [← deltaOf_eq_of_raw parseServer frames hraw hf hg (Send.toClient.inj heq), hd] at hgd
  cases hgd

lemma heldCovered_init : HeldCovered parseServer frames (ServerState.init : ServerState β) := by
  simp [HeldCovered, ServerState.init]

lemma heldCovered_blockedState : HeldCovered parseServer frames (blockedState : ServerState β) := by
  simp [HeldCovered, blockedState]

include hraw in
lemma evaluated_release {st : ServerState β} (hst : HeldCovered parseServer frames st) {w : String}
    (hw : evaluateWindow w = none) (hwin : Within st.pendingText w) :
    ∀ o ∈ st.deltaHold.map (@Send.toClient β body),
      Evaluated parseServer evaluateWindow frames o := by
  intro o ho g hg heq d hgd _
  obtain ⟨r, hr, rfl⟩ := List.mem_map.mp ho
  obtain ⟨f, hf, rfl, d', hfd, hwd⟩ := hst r hr
  rw [← deltaOf_eq_of_raw parseServer frames hraw hf hg (Send.toClient.inj heq), hfd] at hgd
  obtain rfl := Option.some.inj hgd
  exact ⟨w, hw, hwd.trans hwin⟩

include hraw in
lemma serverDelta_step {st : ServerState β} (hst : HeldCovered parseServer frames st) {f : Frame β}
    (hf : f ∈ frames) {d : String} (hfd : deltaOf parseServer f = some d) :
    HeldCovered parseServer frames (serverDelta evaluateWindow st f.raw d).1 ∧
      ∀ o ∈ (serverDelta evaluateWindow st f.raw d).2, Evaluated parseServer evaluateWindow frames o := by
  unfold serverDelta
  split
  · exact ⟨hst, by simp⟩
  -- the delta joins the held frames and its text the pending text
  have hpush : HeldCovered parseServer frames
      { st with pendingText := st.pendingText ++ d, deltaHold := st.deltaHold ++ [f.raw] } := by
    intro r hr
    rcases List.mem_append.mp hr with hr | hr
    · obtain ⟨g, hg, hgr, d', hgd, hwd⟩ := hst r hr
      exact ⟨g, hg, hgr, d', hgd, hwd.append_right d⟩
    · obtain rfl := List.mem_singleton.mp hr
      exact ⟨f, hf, rfl, d, hfd, Within.right st.pendingText d⟩
  dsimp only
  split
  · split
    · exact ⟨heldCovered_blockedState parseServer frames, by simp [Evaluated]⟩
    next hpass =>
      refine ⟨fun r hr => by simp at hr, ?_⟩
      exact evaluated_release parseServer evaluateWindow frames hraw hpush hpass
        (Within.right st.overlapTail _)
  · exact ⟨hpush, by simp⟩

include hraw in
lemma serverDone_step {st : ServerState β} (hst : HeldCovered parseServer frames st) {f : Frame β}
    (hf : f ∈ frames) (hfd : deltaOf parseServer f = none) :
    HeldCovered parseServer frames (serverDone evaluateWindow st f.raw).1 ∧
      ∀ o ∈ (serverDone evaluateWindow st f.raw).2, Evaluated parseServer evaluateWindow frames o := by
  unfold serverDone
  split
  · exact ⟨heldCovered_init parseServer frames, by simp⟩
  dsimp only
  split
  · exact ⟨heldCovered_blockedState parseServer frames, by simp [Evaluated]⟩
  next hpass =>
  refine ⟨heldCovered_init parseServer frames, fun o ho => ?_⟩
  rcases List.mem_append.mp ho with ho | ho
  · split at hpass
    · exact evaluated_release parseServer evaluateWindow frames hraw hst hpass
        (Within.right st.overlapTail _) o ho
    next hempty =>
      -- nothing was pending, so every held delta is empty and carries no text
      simp only [Bool.not_eq_true', String.isEmpty_eq_false_iff, not_not] at hempty
      intro g hg heq d hgd hne
      obtain ⟨r, hr, rfl⟩ := List.mem_map.mp ho
      obtain ⟨f', hf', rfl, d', hfd', hwd⟩ := hst _ hr
      rw [← deltaOf_eq_of_raw parseServer frames hraw hf' hg (Send.toClient.inj heq), hfd'] at hgd
      obtain rfl := Option.some.inj hgd
      rw [hempty] at hwd
      exact absurd hwd.eq_empty hne
  · obtain rfl := List.mem_singleton.mp ho
    exact evaluated_of_deltaOf_none parseServer evaluateWindow frames hraw hf hfd

include hraw in
lemma serverFrame_step {st : ServerState β} (hst : HeldCovered parseServer frames st) {f : Frame β}
    (hf : f ∈ frames) :
    HeldCovered parseServer frames
        (serverFrame parseServer evaluateWindow st
          (if f.opcode = .text then .text f.raw f.payload else .other f.raw)).1 ∧
      ∀ o ∈ (serverFrame parseServer evaluateWindow st
          (if f.opcode = .text then .text f.raw f.payload else .other f.raw)).2,
        Evaluated parseServer evaluateWindow frames o := by
  by_cases hop : f.opcode = .text
  · rw [if_pos hop]
    simp only [serverFrame]
    split
    next d hparse =>
      exact serverDelta_step parseServer evaluateWindow frames hraw hst hf (by simp [deltaOf, hop, hparse])
    next hparse =>
      exact serverDone_step parseServer evaluateWindow frames hraw hst hf (by simp [deltaOf, hop, hparse])
    next hdelta hdone =>
      -- any other event is forwarded as it came
      have hfd : deltaOf parseServer f = none := by
        simp only [deltaOf, hop, if_true]
      refine ⟨hst, fun o ho => ?_⟩
      obtain rfl := List.mem_singleton.mp ho
      exact evaluated_of_deltaOf_none parseServer evaluateWindow frames hraw hf hfd
  · rw [if_neg hop]
    refine ⟨hst, fun o ho => ?_⟩
    obtain rfl := List.mem_singleton.mp ho
    exact evaluated_of_deltaOf_none parseServer evaluateWindow frames hraw hf (by simp [deltaOf, hop])

include hraw in
/-- Without fragmented messages, a delta frame with text reaches the client only inside a window
the evaluators passed. -/
theorem serverToClient_deltas_evaluated (hw : ∀ f ∈ frames, f.Whole) {f : Frame β} (hf : f ∈ frames)
    {d : String} (hfd : deltaOf parseServer f = some d) (hne : d ≠ "")
    (hsend : Send.toClient f.raw ∈ serverToClient T parseServer evaluateWindow frames) :
    ∃ w, evaluateWindow w = none ∧ Within d w := by
  rw [serverToClient, drainFrames, drainFrames_whole frames hw] at hsend
  have hrun := run_invariant
    (R := fun c : WsCompletedFrame β => ∃ g ∈ frames,
      c = if g.opcode = .text then .text g.raw g.payload else .other g.raw)
    (P := HeldCovered parseServer frames) (Q := Evaluated parseServer evaluateWindow frames)
    (fun st c hc hst => by
      obtain ⟨g, hg, rfl⟩ := hc
      exact serverFrame_step parseServer evaluateWindow frames hraw hst hg)
    (frames.map fun g => if g.opcode = .text then .text g.raw g.payload else .other g.raw)
    (fun c hc => by
      obtain ⟨g, hg, rfl⟩ := List.mem_map.mp hc
      exact ⟨g, hg, rfl⟩)
    _ (heldCovered_init parseServer frames)
  exact hrun.2 _ hsend f hf rfl d hfd hne

end ServerToClient

/-! ### Fragmented messages -/

/-- The guards only ever see the last fragment of a fragmented client message: when it is not a
`conversation.item.create` on its own, every fragment goes to the server. -/
theorem clientToServer_fragmented (parseClient : β → Option RealtimeClientEvent)
    (requestGuard : String → Option body) (r₁ p₁ r₂ p₂ : β)
    (hp₂ : ∀ item, parseClient p₂ ≠ some (.conversationItemCreate item)) :
    clientToServer sansIoTracking parseClient requestGuard [⟨.text, false, r₁, p₁⟩, ⟨.continuation, true, r₂, p₂⟩] =
      [.toServer r₁, .toServer r₂] := by
  rw [clientToServer, drainFrames_fragmented]
  cases hparse : parseClient p₂ with
  | none => simp [clientFrame, hparse]
  | some e =>
    cases e with
    | conversationItemCreate item => exact absurd hparse (hp₂ item)
    | other => simp [clientFrame, hparse]

/-- `conversation.item.create` of a user message whose input text is `secret`, cut into the
payloads of two fragments. -/
def createSecretHead : String :=
  "\x7b\"type\":\"conversation.item.create\",\"item\":\x7b\"type\":\"message\",\"role\":\"user\","

def createSecretTail : String := "\"content\":[\x7b\"type\":\"input_text\",\"text\":\"secret\"\x7d]\x7d\x7d"

def deltaSecretHead : String :=
  "\x7b\"type\":\"response.output_text.delta\",\"event_id\":\"event_1\",\"response_id\":\"resp_1\","

def deltaSecretTail : String := "\"item_id\":\"item_1\",\"output_index\":0,\"content_index\":0,\"delta\":\"secret\"\x7d"

def textDone : String :=
  "\x7b\"type\":\"response.output_text.done\",\"event_id\":\"event_2\",\"response_id\":\"resp_1\"," ++
    "\"item_id\":\"item_1\",\"output_index\":0,\"content_index\":0,\"text\":\"secret\"\x7d"

/-- `serde_json::from_str::<RealtimeClientEvent>` on the texts of the example: the whole create
event parses, and its fragments, which are no JSON text, do not. -/
def secretClient (payload : String) : Option RealtimeClientEvent :=
  if payload = createSecretHead ++ createSecretTail then
    some (.conversationItemCreate (.userMessage [.inputText "secret"]))
  else none

def rejectSecret (text : String) : Option String := if text = "secret" then some "blocked" else none

def secretServer (payload : String) : Option RealtimeServerEvent :=
  if payload = deltaSecretHead ++ deltaSecretTail then some (.responseOutputTextDelta "secret")
  else if payload = textDone then some .responseOutputTextDone
  else none

/-- Fragmenting a message takes it past the guards in both directions: the rejected user text
reaches the server and the rejected delta reaches the client, while the same messages in single
frames are stopped. -/
theorem guardedProxy_fragments_bypass_guards :
    clientToServer sansIoTracking secretClient rejectSecret
        [⟨.text, false, "F1", createSecretHead⟩, ⟨.continuation, true, "F2", createSecretTail⟩] =
      [.toServer "F1", .toServer "F2"] ∧
    clientToServer sansIoTracking secretClient rejectSecret [⟨.text, true, "F", createSecretHead ++ createSecretTail⟩] =
      [.blockedToClient "blocked"] ∧
    serverToClient sansIoTracking secretServer (fun _ => some "blocked")
        [⟨.text, false, "D1", deltaSecretHead⟩, ⟨.continuation, true, "D2", deltaSecretTail⟩,
          ⟨.text, true, "E", textDone⟩] =
      [.toClient "D1", .toClient "D2", .toClient "E"] ∧
    serverToClient sansIoTracking secretServer (fun _ => some "blocked")
        [⟨.text, true, "D", deltaSecretHead ++ deltaSecretTail⟩, ⟨.text, true, "E", textDone⟩] =
      [.blockedToClient "blocked", .cancelToServer] := by
  -- the tail alone is no JSON text, so the guard never sees the item
  have htail : ∀ item, secretClient createSecretTail ≠ some (.conversationItemCreate item) := by
    intro item
    rw [secretClient, if_neg (by decide)]
    simp
  refine ⟨clientToServer_fragmented _ _ _ _ _ _ htail, ?_⟩
  decide

theorem clientToServer_guarded_whole :
    (∀ g ∈ [(⟨.text, true, "F", createSecretHead ++ createSecretTail⟩ : Frame String)], g.Whole) ∧
    Send.toServer "F" ∉ clientToServer sansIoTracking secretClient rejectSecret
      [⟨.text, true, "F", createSecretHead ++ createSecretTail⟩] := by
  have hw : ∀ g ∈ [(⟨.text, true, "F", createSecretHead ++ createSecretTail⟩ : Frame String)], g.Whole := by
    simp [Frame.Whole]
  exact ⟨hw, @clientToServer_guarded _ _ sansIoTracking secretClient rejectSecret _ hw
    ⟨.text, true, "F", createSecretHead ++ createSecretTail⟩ rfl (.userMessage [.inputText "secret"])
    (by decide) (by decide) (by decide) (by decide)⟩

set_option maxRecDepth 4096 in
theorem serverToClient_deltas_evaluated_passing :
    Send.toClient "D" ∈ serverToClient sansIoTracking secretServer (fun _ => (none : Option String))
      [⟨.text, true, "D", deltaSecretHead ++ deltaSecretTail⟩, ⟨.text, true, "E", textDone⟩] ∧
    ∃ w, (fun _ => (none : Option String)) w = none ∧ Within "secret" w := by
  have hsend : Send.toClient "D" ∈ serverToClient sansIoTracking secretServer (fun _ => (none : Option String))
      [⟨.text, true, "D", deltaSecretHead ++ deltaSecretTail⟩, ⟨.text, true, "E", textDone⟩] := by decide
  exact ⟨hsend, serverToClient_deltas_evaluated sansIoTracking secretServer _ _ (by decide)
    (by simp [Frame.Whole]) (f := ⟨.text, true, "D", deltaSecretHead ++ deltaSecretTail⟩) (by simp)
    (by decide) (by decide) hsend⟩

end AgentGateway.Realtime.GuardedProxy
