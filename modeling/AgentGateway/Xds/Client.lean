import AgentGateway.Library.Map
import Mathlib.Data.List.Dedup

/-! The delta xDS client of `xds/src/client.rs`; maps are functions, and a missing type map
reads as an empty one. -/

namespace AgentGateway.Xds

inductive RejectedConfigSeverity where
  | warning
  | error
  deriving DecidableEq, Repr

structure RejectedConfig where
  name : String
  severity : RejectedConfigSeverity
  reason : String
  deriving DecidableEq, Repr

namespace RejectedConfig

def error (name reason : String) : RejectedConfig := ⟨name, .error, reason⟩

def warning (name reason : String) : RejectedConfig := ⟨name, .warning, reason⟩

end RejectedConfig

structure RejectedConfigMessage where
  key : String
  warn : Option String
  error : Option String
  deriving DecidableEq, Repr

def RejectedConfigMessage.ofRejectedConfig (value : RejectedConfig) : RejectedConfigMessage :=
  match value.severity with
  | .warning => ⟨value.name, some value.reason, none⟩
  | .error => ⟨value.name, none, some value.reason⟩

def formatJson (rejects : List RejectedConfig) : List RejectedConfigMessage :=
  rejects.map RejectedConfigMessage.ofRejectedConfig

structure Resource (β : Type) where
  name : String
  version : String
  resource : Option β

structure DeltaDiscoveryResponse (β : Type) where
  typeUrl : String
  nonce : String
  resources : List (Resource β)
  removedResources : List String

structure XdsResource (T : Type) where
  name : String
  resource : T

inductive XdsUpdate (T : Type) where
  | update (r : XdsResource T)
  | remove (name : String)

def XdsUpdate.name {T : Type} : XdsUpdate T → String
  | .update r => r.name
  | .remove n => n

inductive AdsError where
  | decode (err : String)
  | missingResource

def AdsError.toString : AdsError → String
  | .decode err => "decode: " ++ err
  | .missingResource => "XDS payload without resource"

section Handle

variable {β T S : Type}

def decodeProto (decode : β → Except String T) (resource : Resource β) : Except AdsError (XdsResource T) :=
  match resource.resource with
  | none => .error .missingResource
  | some res =>
    match decode res with
    | .ok r => .ok ⟨resource.name, r⟩
    | .error err => .error (.decode err)

structure State where
  knownResources : String → String → Option String

namespace State

def addResource (s : State) (typeUrl name version : String) : State :=
  ⟨Function.update s.knownResources typeUrl (Function.update (s.knownResources typeUrl) name (some version))⟩

def removeResource (s : State) (typeUrl name : String) : State :=
  ⟨Function.update s.knownResources typeUrl (Function.update (s.knownResources typeUrl) name none)⟩

end State

def decodeFailures (decode : β → Except String T) (resources : List (Resource β)) : List RejectedConfig :=
  resources.filterMap fun raw =>
    match decodeProto decode raw with
    | .ok _ => none
    | .error err => some (RejectedConfig.error raw.name err.toString)

def updates (decode : β → Except String T) (res : DeltaDiscoveryResponse β) : List (XdsUpdate T) :=
  (res.resources.filterMap fun raw =>
    match decodeProto decode raw with
    | .ok r => some (XdsUpdate.update r)
    | .error _ => none) ++ res.removedResources.map XdsUpdate.remove

def rejectedNames (failures : List RejectedConfig) (result : Except (List RejectedConfig) Unit) : List String :=
  let handlerRejects := match result with
    | .error rejects => rejects
    | .ok () => []
  ((failures ++ handlerRejects).filter fun reject => reject.severity == .error).map (·.name)

/-- The version bookkeeping after the handler ran: the removals first, then every resource whose name
was not rejected with an error. -/
def recordVersions (typeUrl : String) (rejected : List String) (res : DeltaDiscoveryResponse β)
    (state : State) : State :=
  let state := res.removedResources.foldl (fun s name => s.removeResource typeUrl name) state
  res.resources.foldl (fun s r => if rejected.contains r.name then s else s.addResource typeUrl r.name r.version) state

def mergeResults (result : Except (List RejectedConfig) Unit) (failures : List RejectedConfig) :
    Except (List RejectedConfig) Unit :=
  match result, failures.isEmpty with
  | .ok (), true => .ok ()
  | .ok (), false => .error failures
  | .error rejects, true => .error rejects
  | .error rejects, false => .error (rejects ++ failures)

def HandlerWrapper.handle (decode : β → Except String T)
    (h : S → List (XdsUpdate T) → S × Except (List RejectedConfig) Unit)
    (store : S) (state : State) (res : DeltaDiscoveryResponse β) : S × State × Except (List RejectedConfig) Unit :=
  let failures := decodeFailures decode res.resources
  let (store, result) := h store (updates decode res)
  let state := recordVersions res.typeUrl (rejectedNames failures result) res state
  (store, state, mergeResults result failures)

/-- `handle_single_resource`: `handle_one` runs on every update in iterator order, and its failures
are collected as error rejections. -/
def collectRejects (handleOne : S → XdsUpdate T → Except String S) (s : S) :
    List (XdsUpdate T) → S × List RejectedConfig
  | [] => (s, [])
  | res :: rest =>
    match handleOne s res with
    | .ok s' => collectRejects handleOne s' rest
    | .error e =>
      let (s', rejects) := collectRejects handleOne s rest
      (s', RejectedConfig.error res.name e :: rejects)

def handleSingleResource (handleOne : S → XdsUpdate T → Except String S) (s : S) (updates : List (XdsUpdate T)) :
    S × Except (List RejectedConfig) Unit :=
  let (s, rejects) := collectRejects handleOne s updates
  (s, if rejects.isEmpty then .ok () else .error rejects)

structure DeltaDiscoveryRequest where
  typeUrl : String
  responseNonce : String
  errorDetail : Option (List RejectedConfigMessage)

abbrev RawHandler (β : Type) := State → DeltaDiscoveryResponse β → State × Except (List RejectedConfig) Unit

def handleStreamEvent (handlers : String → Option (RawHandler β)) (state : State)
    (response : DeltaDiscoveryResponse β) : State × DeltaDiscoveryRequest × Bool :=
  let (state, handlerResponse) := match handlers response.typeUrl with
    | some h => h state response
    | none => (state, .ok ())
  let (error, hasErrors) := match handlerResponse with
    | .error rejects => (some (formatJson rejects), rejects.any fun reject => reject.severity == .error)
    | .ok () => (none, false)
  (state, ⟨response.typeUrl, response.nonce, error⟩, hasErrors)

/-- The client between responses: `block_ready` is whether the sender is still held, and
`types_to_expect` the set of initially requested types not yet answered without an error. -/
structure AdsClient (β : Type) where
  handlers : String → Option (RawHandler β)
  state : State
  blockReady : Bool
  typesToExpect : List String

def AdsClient.new (handlers : String → Option (RawHandler β)) (initialRequests : List String) : AdsClient β :=
  ⟨handlers, ⟨fun _ _ => none⟩, true, initialRequests.dedup⟩

def AdsClient.initialResourceVersions (c : AdsClient β) (typeUrl : String) : String → Option String :=
  c.state.knownResources typeUrl

def AdsClient.onResponse (c : AdsClient β) (msg : DeltaDiscoveryResponse β) : AdsClient β × DeltaDiscoveryRequest :=
  let receivedType := if c.typesToExpect.isEmpty then none else some msg.typeUrl
  let (state, req, hasErrors) := handleStreamEvent c.handlers c.state msg
  let c := { c with state }
  if !hasErrors then
    match receivedType with
    | some t =>
      let typesToExpect := c.typesToExpect.filter (· != t)
      ({ c with typesToExpect, blockReady := if typesToExpect.isEmpty then false else c.blockReady }, req)
    | none => (c, req)
  else (c, req)

def AdsClient.run (c : AdsClient β) : List (DeltaDiscoveryResponse β) → AdsClient β
  | [] => c
  | msg :: msgs => (c.onResponse msg).1.run msgs

end Handle

/-- A handler in the manner of `handle_single_resource` that applies every update, in iterator
order, to a store of resources by name. -/
def applyUpdate {T : Type} (store : String → Option T) : XdsUpdate T → Except String (String → Option T)
  | .update r => .ok (Function.update store r.name (some r.resource))
  | .remove n => .ok (Function.update store n none)

section Versions

open Library.Map

variable {β T S : Type} {decode : β → Except String T}

def decodes (decode : β → Except String T) (r : Resource β) : Bool :=
  match decodeProto decode r with
  | .ok _ => true
  | .error _ => false

def errorNames (result : Except (List RejectedConfig) Unit) : List String :=
  match result with
  | .error rejects => (rejects.filter fun reject => reject.severity == .error).map (·.name)
  | .ok () => []

/-- The versions of what a handler holds after it consumed the response in iterator order, as the
bookkeeping should record them: every resource that decodes and that the handler did not reject
with an error is set to its version, in order, and then every removed name is deleted. -/
def consumedVersions (decode : β → Except String T) (rejected : List String) (res : DeltaDiscoveryResponse β)
    (prev : String → Option String) : String → Option String :=
  eraseAll res.removedResources
    (setAll (fun r => decodes decode r && !rejected.contains r.name) (·.name) (·.version) res.resources prev)

lemma foldl_removeResource (typeUrl : String) :
    ∀ (l : List String) (s : State), (l.foldl (fun s name => s.removeResource typeUrl name) s).knownResources =
      Function.update s.knownResources typeUrl (eraseAll l (s.knownResources typeUrl))
  | [], s => by simp
  | n :: l, s => by
    rw [List.foldl_cons, foldl_removeResource typeUrl l, eraseAll_cons]
    simp [State.removeResource]

lemma foldl_addResource (typeUrl : String) (rejected : List String) :
    ∀ (rs : List (Resource β)) (s : State),
      (rs.foldl (fun s r => if rejected.contains r.name then s else s.addResource typeUrl r.name r.version) s).knownResources =
        Function.update s.knownResources typeUrl
          (setAll (fun r => !rejected.contains r.name) (·.name) (·.version) rs (s.knownResources typeUrl))
  | [], s => by simp
  | r :: rs, s => by
    rw [List.foldl_cons, foldl_addResource typeUrl rejected rs, setAll_cons]
    by_cases hr : r.name ∈ rejected
    · simp [hr]
    · simp [hr, State.addResource]

lemma recordVersions_knownResources (typeUrl : String) (rejected : List String) (res : DeltaDiscoveryResponse β)
    (state : State) :
    (recordVersions typeUrl rejected res state).knownResources =
      Function.update state.knownResources typeUrl
        (setAll (fun r => !rejected.contains r.name) (·.name) (·.version) res.resources
          (eraseAll res.removedResources (state.knownResources typeUrl))) := by
  unfold recordVersions
  rw [foldl_addResource, foldl_removeResource]
  simp

lemma mem_decodeFailures_names {rs : List (Resource β)} {n : String} :
    n ∈ (decodeFailures decode rs).map (·.name) ↔ ∃ r ∈ rs, decodes decode r = false ∧ r.name = n := by
  simp only [decodeFailures, decodes, List.mem_map, List.mem_filterMap]
  constructor
  · rintro ⟨_, ⟨r, hr, hd⟩, rfl⟩
    split at hd
    · cases hd
    · next h =>
      cases hd
      exact ⟨r, hr, by rw [h], rfl⟩
  · rintro ⟨r, hr, hd, rfl⟩
    split at hd
    · cases hd
    · next err h => exact ⟨_, ⟨r, hr, by rw [h]⟩, rfl⟩

lemma filter_decodeFailures (rs : List (Resource β)) :
    (decodeFailures decode rs).filter (fun reject => reject.severity == .error) = decodeFailures decode rs := by
  rw [List.filter_eq_self]
  intro reject hreject
  obtain ⟨r, -, hr⟩ := List.mem_filterMap.1 hreject
  split at hr
  · cases hr
  · cases hr
    rfl

lemma contains_rejectedNames {failures : List RejectedConfig} {result : Except (List RejectedConfig) Unit} {n : String} :
    (rejectedNames failures result).contains n = true ↔
      n ∈ (failures.filter fun reject => reject.severity == .error).map (·.name) ∨ n ∈ errorNames result := by
  unfold rejectedNames errorNames
  cases result <;> simp [List.filter_append]

/-- With distinct names and no name both set and removed, the bookkeeping records exactly what the
handler consumed. -/
theorem handle_knownResources_of_disjoint (h : S → List (XdsUpdate T) → S × Except (List RejectedConfig) Unit)
    (store : S) (state : State) (res : DeltaDiscoveryResponse β)
    (hnd : (res.resources.map (·.name)).Nodup) (hdisj : ∀ r ∈ res.resources, r.name ∉ res.removedResources) :
    (HandlerWrapper.handle decode h store state res).2.1.knownResources =
      Function.update state.knownResources res.typeUrl
        (consumedVersions decode (errorNames (h store (updates decode res)).2) res (state.knownResources res.typeUrl)) := by
  rcases hres : h store (updates decode res) with ⟨store', result⟩
  simp only [HandlerWrapper.handle, hres, recordVersions_knownResources]
  congr 1
  unfold consumedVersions
  rw [← setAll_eraseAll _ _ _ _ _ hdisj]
  apply setAll_congr
  intro r hr
  -- a name is rejected by its own failed decoding, since no other resource has it, or by the handler
  have hfail : r.name ∈ ((decodeFailures decode res.resources).filter fun reject => reject.severity == .error).map (·.name) ↔
      decodes decode r = false := by
    rw [filter_decodeFailures, mem_decodeFailures_names]
    constructor
    · rintro ⟨r', hr', hd, hn⟩
      rwa [← List.inj_on_of_nodup_map hnd hr' hr hn]
    · intro hd
      exact ⟨r, hr, hd, rfl⟩
  cases hd : decodes decode r
  · have hc : (rejectedNames (decodeFailures decode res.resources) result).contains r.name = true :=
      contains_rejectedNames.2 (.inl (hfail.2 hd))
    rw [hc]
    rfl
  · have hnf : r.name ∉ ((decodeFailures decode res.resources).filter fun reject => reject.severity == .error).map (·.name) :=
      fun hm => absurd (hfail.1 hm) (by simp [hd])
    simp only [Bool.true_and]
    congr 1
    rw [Bool.eq_iff_iff, contains_rejectedNames, List.contains_iff_mem]
    simp [hnf]

theorem handle_knownResources_of_disjoint_fresh :
    let decode : Nat → Except String Nat := fun n => if n = 0 then .error "invalid wire type" else .ok n
    let handler := handleSingleResource (applyUpdate (T := Nat))
    let res : DeltaDiscoveryResponse Nat := ⟨"t", "1", [⟨"a", "v1", some 7⟩, ⟨"b", "v1", some 0⟩], ["c"]⟩
    (res.resources.map (·.name)).Nodup ∧ (∀ r ∈ res.resources, r.name ∉ res.removedResources) ∧
      (HandlerWrapper.handle decode handler (fun _ => none) ⟨fun _ _ => none⟩ res).2.1.knownResources =
        Function.update (fun _ _ => none) "t"
          (consumedVersions decode (errorNames (handler (fun _ => none) (updates decode res)).2) res (fun _ => none)) :=
  ⟨by decide, by decide, handle_knownResources_of_disjoint _ _ _ _ (by decide) (by decide)⟩

end Versions

section Ready

variable {β : Type}

end Ready

theorem known_resources_diverge_from_handler :
    let empty : State := ⟨fun _ _ => none⟩
    let decode : Nat → Except String Nat := fun n => if n = 0 then .error "invalid wire type" else .ok n
    let handler := handleSingleResource (applyUpdate (T := Nat))
    let res₁ : DeltaDiscoveryResponse Nat := ⟨"t", "1", [⟨"a", "v1", some 7⟩], ["a"]⟩
    let out₁ := HandlerWrapper.handle decode handler (fun _ => none) empty res₁
    let res₂ : DeltaDiscoveryResponse Nat := ⟨"t", "2", [⟨"a", "v1", some 7⟩, ⟨"a", "v2", some 0⟩], []⟩
    let out₂ := HandlerWrapper.handle decode handler (fun _ => none) empty res₂
    (out₁.1 "a" = none ∧ out₁.2.1.knownResources "t" "a" = some "v1" ∧
      consumedVersions decode (errorNames (handler (fun _ => none) (updates decode res₁)).2) res₁ (fun _ => none) "a" = none) ∧
    (out₂.1 "a" = some 7 ∧ out₂.2.1.knownResources "t" "a" = none ∧
      consumedVersions decode (errorNames (handler (fun _ => none) (updates decode res₂)).2) res₂ (fun _ => none) "a" = some "v1") := by
  decide

end AgentGateway.Xds
