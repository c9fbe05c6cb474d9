import AgentGateway.Library.Fold
import Mathlib.Data.Multiset.Basic

/-! `BackendPolicies` of `store/binds.rs`: the fold of `internal_backend_policies` and the
pairwise `merge` the proxy chains. -/

namespace AgentGateway.Policy.Backend

open Library.Fold

/-- The fields of `BackendPolicies` a rule fills only while unset (`get_or_insert_with`,
`set_if_unset`) and `merge` takes with `Option::or`. -/
inductive BackendField where
  | backendTls
  | backendAuth
  | a2a
  | inferenceRouting
  | extAuthz
  | mcpAuthentication
  | mcpGuardrails
  | http
  | tcp
  | tunnel
  | requestHeaderModifier
  | responseHeaderModifier
  | requestRedirect
  | transformation
  | sessionPersistence
  | health
  deriving DecidableEq, Repr

inductive LlmField where
  | promptGuard
  | defaults
  | overrides
  | transformations
  | prompts
  | promptCaching
  deriving DecidableEq, Repr

variable {α : Type}

@[ext]
structure LlmPolicy (α : Type) where
  fields : LlmField → Option α
  modelAliases : List α
  wildcardPatterns : List α
  routes : List α

/-- `merge_llm_policies`: the preferred policy's fields where set; the aliases (with their wildcard
patterns) and the routes of the preferred policy unless it has none. -/
def mergeLlmPolicies (preferred fallback : LlmPolicy α) : LlmPolicy α :=
  let (mergedAliases, mergedWildcardPatterns) :=
    if preferred.modelAliases.isEmpty then (fallback.modelAliases, fallback.wildcardPatterns)
    else (preferred.modelAliases, preferred.wildcardPatterns)
  { fields := fun f => (preferred.fields f).or (fallback.fields f)
    modelAliases := mergedAliases
    wildcardPatterns := mergedWildcardPatterns
    routes := if preferred.routes.isEmpty then fallback.routes else preferred.routes }

@[ext]
structure BackendPolicies (α : Type) where
  fields : BackendField → Option α
  llmProvider : Option α
  llm : Option (LlmPolicy α)
  authorization : Option (List α)
  mcpAuthorization : Option (List α)
  requestMirror : List α
  overrideDest : Option α

namespace BackendPolicies

def default : BackendPolicies α := ⟨fun _ => none, none, none, none, none, [], none⟩

/-- `BackendPolicies::merge`: `other` has precedence, and the authorization rule sets of both
apply. -/
def merge (self other : BackendPolicies α) : BackendPolicies α where
  fields f := (other.fields f).or (self.fields f)
  llmProvider := other.llmProvider.or self.llmProvider
  llm := other.llm.or self.llm
  authorization :=
    match self.authorization, other.authorization with
    | some left, some right => some (left ++ right)
    | some left, none => some left
    | none, some right => some right
    | none, none => none
  mcpAuthorization :=
    match self.mcpAuthorization, other.mcpAuthorization with
    | some base, some more => some (base ++ more)
    | base, more => more.or base
  requestMirror := if other.requestMirror.isEmpty then self.requestMirror else other.requestMirror
  overrideDest := other.overrideDest.or self.overrideDest

end BackendPolicies

inductive BackendTrafficPolicy (α : Type) where
  | authorization (p : α)
  | mcpAuthorization (p : α)
  | mcpAuthentication (p : α)
  | mcpGuardrails (p : α)
  | a2a (p : α)
  | http (p : α)
  | tcp (p : α)
  | tunnel (p : α)
  | backendTls (p : α)
  | backendAuth (p : α)
  | inferenceRouting (p : α)
  | ai (p : LlmPolicy α)
  | extAuthz (p : α)
  | sessionPersistence (p : α)
  | transformation (p : α)
  | health (p : α)
  | requestHeaderModifier (p : α)
  | responseHeaderModifier (p : α)
  | requestRedirect (p : α)
  | requestMirror (p : List α)

def BackendTrafficPolicy.slot : BackendTrafficPolicy α → Option (BackendField × α)
  | .mcpAuthentication p => some (.mcpAuthentication, p)
  | .mcpGuardrails p => some (.mcpGuardrails, p)
  | .a2a p => some (.a2a, p)
  | .http p => some (.http, p)
  | .tcp p => some (.tcp, p)
  | .tunnel p => some (.tunnel, p)
  | .backendTls p => some (.backendTls, p)
  | .backendAuth p => some (.backendAuth, p)
  | .inferenceRouting p => some (.inferenceRouting, p)
  | .extAuthz p => some (.extAuthz, p)
  | .sessionPersistence p => some (.sessionPersistence, p)
  | .transformation p => some (.transformation, p)
  | .health p => some (.health, p)
  | .requestHeaderModifier p => some (.requestHeaderModifier, p)
  | .responseHeaderModifier p => some (.responseHeaderModifier, p)
  | .requestRedirect p => some (.requestRedirect, p)
  | _ => none

structure CollectState (α : Type) where
  authz : List α
  mcpAuthz : List α
  pol : BackendPolicies α

def collectRule (s : CollectState α) (rule : BackendTrafficPolicy α) : CollectState α :=
  match rule with
  | .authorization p => { s with authz := s.authz ++ [p] }
  | .mcpAuthorization p => { s with mcpAuthz := s.mcpAuthz ++ [p] }
  | .ai p =>
    { s with pol := { s.pol with llm := some (match s.pol.llm with
        | some existing => mergeLlmPolicies existing p
        | none => p) } }
  | .requestMirror p =>
    if s.pol.requestMirror.isEmpty then { s with pol := { s.pol with requestMirror := p } } else s
  | rule =>
    match rule.slot with
    | some (f, p) =>
      { s with pol := { s.pol with fields := Function.update s.pol.fields f ((s.pol.fields f).or (some p)) } }
    | none => s

def internalBackendPolicies (rules : List (BackendTrafficPolicy α)) : BackendPolicies α :=
  let s := rules.foldl collectRule ⟨[], [], BackendPolicies.default⟩
  let pol := if !s.authz.isEmpty then { s.pol with authorization := some s.authz } else s.pol
  if !s.mcpAuthz.isEmpty then { pol with mcpAuthorization := some s.mcpAuthz } else pol

section Slots

/-! What each field of the loop state becomes after one rule: the old value combined with what the
rule contributes, by the operation of that field. -/

def fieldOf (f : BackendField) (r : BackendTrafficPolicy α) : Option α :=
  match r.slot with
  | some (f', p) => if f' = f then some p else none
  | none => none

def firstNonempty (a b : List α) : List α := if a.isEmpty then b else a

def mirrorOf : BackendTrafficPolicy α → List α
  | .requestMirror p => p
  | _ => []

def llmCombine : Option (LlmPolicy α) → Option (LlmPolicy α) → Option (LlmPolicy α)
  | some a, some b => some (mergeLlmPolicies a b)
  | a, b => a.or b

def llmOf : BackendTrafficPolicy α → Option (LlmPolicy α)
  | .ai p => some p
  | _ => none

def authzOf : BackendTrafficPolicy α → List α
  | .authorization p => [p]
  | _ => []

def mcpAuthzOf : BackendTrafficPolicy α → List α
  | .mcpAuthorization p => [p]
  | _ => []

@[simp] lemma firstNonempty_nil (a : List α) : firstNonempty a [] = a := by
  unfold firstNonempty
  split <;> simp_all

@[simp] lemma llmCombine_none (a : Option (LlmPolicy α)) : llmCombine a none = a := by
  cases a <;> rfl

lemma update_or_apply (m : BackendField → Option α) (f' f : BackendField) (p : α) :
    Function.update m f' ((m f').or (some p)) f = (m f).or (if f' = f then some p else none) := by
  by_cases h : f' = f
  · subst h
    simp
  · simp [Function.update_of_ne (Ne.symm h), h]

variable (s : CollectState α) (r : BackendTrafficPolicy α)

lemma collectRule_fields (f : BackendField) :
    (collectRule s r).pol.fields f = (s.pol.fields f).or (fieldOf f r) := by
  cases r
  -- the rules with arms of their own leave the first-set-wins fields alone
  case authorization | mcpAuthorization | ai => exact Option.or_none.symm
  case requestMirror p =>
    simp only [collectRule]
    split <;> exact Option.or_none.symm
  all_goals exact update_or_apply _ _ _ _

lemma collectRule_requestMirror :
    (collectRule s r).pol.requestMirror = firstNonempty s.pol.requestMirror (mirrorOf r) := by
  cases r
  case requestMirror p =>
    simp only [collectRule, firstNonempty, mirrorOf]
    split <;> rfl
  all_goals exact (firstNonempty_nil _).symm

lemma collectRule_llm : (collectRule s r).pol.llm = llmCombine s.pol.llm (llmOf r) := by
  cases r
  case ai p =>
    cases h : s.pol.llm <;> simp [collectRule, h, llmCombine, llmOf]
  case requestMirror p =>
    simp only [collectRule]
    split <;> exact (llmCombine_none _).symm
  all_goals exact (llmCombine_none _).symm

lemma collectRule_authz : (collectRule s r).authz = s.authz ++ authzOf r := by
  cases r
  case authorization p => rfl
  case requestMirror p =>
    simp only [collectRule]
    split <;> exact (List.append_nil _).symm
  all_goals exact (List.append_nil _).symm

lemma collectRule_mcpAuthz : (collectRule s r).mcpAuthz = s.mcpAuthz ++ mcpAuthzOf r := by
  cases r
  case mcpAuthorization p => rfl
  case requestMirror p =>
    simp only [collectRule]
    split <;> exact (List.append_nil _).symm
  all_goals exact (List.append_nil _).symm

lemma collectRule_frame :
    (collectRule s r).pol.llmProvider = s.pol.llmProvider ∧ (collectRule s r).pol.overrideDest = s.pol.overrideDest ∧
      (collectRule s r).pol.authorization = s.pol.authorization ∧
      (collectRule s r).pol.mcpAuthorization = s.pol.mcpAuthorization := by
  cases r
  case requestMirror p =>
    simp only [collectRule]
    split <;> exact ⟨rfl, rfl, rfl, rfl⟩
  all_goals exact ⟨rfl, rfl, rfl, rfl⟩

end Slots

section Algebra

/-! The operations the fields combine by are associative, with an identity on both sides. -/

lemma mergeLlmPolicies_assoc (a b c : LlmPolicy α) :
    mergeLlmPolicies (mergeLlmPolicies a b) c = mergeLlmPolicies a (mergeLlmPolicies b c) := by
  ext1
  · funext f
    exact Option.or_assoc
  all_goals
    simp only [mergeLlmPolicies]
    split_ifs <;> simp_all

lemma firstNonempty_assoc (a b c : List α) :
    firstNonempty (firstNonempty a b) c = firstNonempty a (firstNonempty b c) := by
  unfold firstNonempty
  split_ifs <;> simp_all

lemma llmCombine_assoc (a b c : Option (LlmPolicy α)) :
    llmCombine (llmCombine a b) c = llmCombine a (llmCombine b c) := by
  cases a <;> cases b <;> cases c <;> simp [llmCombine, mergeLlmPolicies_assoc]

@[simp] lemma none_llmCombine (a : Option (LlmPolicy α)) : llmCombine none a = a := by
  cases a <;> rfl

@[simp] lemma nil_firstNonempty (a : List α) : firstNonempty [] a = a := rfl

end Algebra

section Append

def optOfList (l : List α) : Option (List α) := if l.isEmpty then none else some l

lemma internalBackendPolicies_eq (rules : List (BackendTrafficPolicy α)) :
    internalBackendPolicies rules =
      { (rules.foldl collectRule ⟨[], [], BackendPolicies.default⟩).pol with
        authorization := optOfList (rules.foldl collectRule ⟨[], [], BackendPolicies.default⟩).authz
        mcpAuthorization := optOfList (rules.foldl collectRule ⟨[], [], BackendPolicies.default⟩).mcpAuthz } := by
  -- the loop never touches the two authorization slots, which start empty
  have ha := foldl_proj (fun s : CollectState α => s.pol.authorization) (fun _ => (none : Option Unit))
    (fun t _ => t) collectRule (fun s r => (collectRule_frame s r).2.2.1) rules ⟨[], [], BackendPolicies.default⟩
  have hm := foldl_proj (fun s : CollectState α => s.pol.mcpAuthorization) (fun _ => (none : Option Unit))
    (fun t _ => t) collectRule (fun s r => (collectRule_frame s r).2.2.2) rules ⟨[], [], BackendPolicies.default⟩
  simp only [List.filterMap_none, List.foldl_nil] at ha hm
  unfold internalBackendPolicies optOfList
  ext1 <;> split_ifs <;> simp_all [BackendPolicies.default]

variable (A B : List (BackendTrafficPolicy α))

lemma foldl_append_fields (f : BackendField) :
    ((A ++ B).foldl collectRule ⟨[], [], BackendPolicies.default⟩).pol.fields f =
      ((A.foldl collectRule ⟨[], [], BackendPolicies.default⟩).pol.fields f).or
        ((B.foldl collectRule ⟨[], [], BackendPolicies.default⟩).pol.fields f) :=
  foldl_append_proj_op Option.or (fun _ _ _ => Option.or_assoc) (fun _ => Option.none_or) (fun _ => Option.or_none)
    (fun s : CollectState α => s.pol.fields f) (fieldOf f) collectRule (fun s r => collectRule_fields s r f) rfl A B

lemma foldl_append_requestMirror :
    ((A ++ B).foldl collectRule ⟨[], [], BackendPolicies.default⟩).pol.requestMirror =
      firstNonempty (A.foldl collectRule ⟨[], [], BackendPolicies.default⟩).pol.requestMirror
        (B.foldl collectRule ⟨[], [], BackendPolicies.default⟩).pol.requestMirror :=
  foldl_append_proj_op firstNonempty firstNonempty_assoc nil_firstNonempty firstNonempty_nil
    (fun s : CollectState α => s.pol.requestMirror) mirrorOf collectRule collectRule_requestMirror rfl A B

lemma foldl_append_llm :
    ((A ++ B).foldl collectRule ⟨[], [], BackendPolicies.default⟩).pol.llm =
      llmCombine (A.foldl collectRule ⟨[], [], BackendPolicies.default⟩).pol.llm
        (B.foldl collectRule ⟨[], [], BackendPolicies.default⟩).pol.llm :=
  foldl_append_proj_op llmCombine llmCombine_assoc none_llmCombine llmCombine_none
    (fun s : CollectState α => s.pol.llm) llmOf collectRule collectRule_llm rfl A B

lemma foldl_append_authz :
    ((A ++ B).foldl collectRule ⟨[], [], BackendPolicies.default⟩).authz =
      (A.foldl collectRule ⟨[], [], BackendPolicies.default⟩).authz ++
        (B.foldl collectRule ⟨[], [], BackendPolicies.default⟩).authz :=
  foldl_append_proj_op (· ++ ·) List.append_assoc List.nil_append List.append_nil
    (fun s : CollectState α => s.authz) authzOf collectRule collectRule_authz rfl A B

lemma foldl_append_mcpAuthz :
    ((A ++ B).foldl collectRule ⟨[], [], BackendPolicies.default⟩).mcpAuthz =
      (A.foldl collectRule ⟨[], [], BackendPolicies.default⟩).mcpAuthz ++
        (B.foldl collectRule ⟨[], [], BackendPolicies.default⟩).mcpAuthz :=
  foldl_append_proj_op (· ++ ·) List.append_assoc List.nil_append List.append_nil
    (fun s : CollectState α => s.mcpAuthz) mcpAuthzOf collectRule collectRule_mcpAuthz rfl A B

lemma optOfList_perm {l l' : List α} (h : l.Perm l') :
    (optOfList l).map (fun l => (l : Multiset α)) = (optOfList l').map (fun l => (l : Multiset α)) := by
  have hnil : l.isEmpty = l'.isEmpty := by
    cases l <;> cases l' <;> simp_all
  simp only [optOfList, hnil]
  split
  · rfl
  · exact congrArg some (Multiset.coe_eq_coe.2 h)

namespace BackendPolicies

variable {x y : BackendPolicies α} {a b : List α}

lemma merge_authorization (hx : x.authorization = optOfList b) (hy : y.authorization = optOfList a) :
    (x.merge y).authorization = optOfList (b ++ a) := by
  simp only [merge, hx, hy, optOfList]
  cases a <;> cases b <;> simp

lemma merge_mcpAuthorization (hx : x.mcpAuthorization = optOfList b) (hy : y.mcpAuthorization = optOfList a) :
    (x.merge y).mcpAuthorization = optOfList (b ++ a) := by
  simp only [merge, hx, hy, optOfList]
  cases a <;> cases b <;> simp

end BackendPolicies

/-- The one-pass fold over `A ++ B` against the merge of the parts, `A` preferred: they agree on
every first-set-wins field and on `request_mirror`, and on both authorization slots as collections
of rule sets; the AI policies of the fold are merged field by field. -/
theorem internalBackendPolicies_append :
    let M : BackendPolicies α := (internalBackendPolicies B).merge (internalBackendPolicies A)
    (∀ f, (internalBackendPolicies (A ++ B)).fields f = M.fields f) ∧
    (internalBackendPolicies (A ++ B)).requestMirror = M.requestMirror ∧
    (internalBackendPolicies (A ++ B)).authorization.map (fun l => (l : Multiset α)) =
      M.authorization.map (fun l => (l : Multiset α)) ∧
    (internalBackendPolicies (A ++ B)).mcpAuthorization.map (fun l => (l : Multiset α)) =
      M.mcpAuthorization.map (fun l => (l : Multiset α)) ∧
    (internalBackendPolicies (A ++ B)).llm =
      llmCombine (internalBackendPolicies A).llm (internalBackendPolicies B).llm := by
  intro M
  have hA := internalBackendPolicies_eq A
  have hB := internalBackendPolicies_eq B
  have hM : M = (internalBackendPolicies B).merge (internalBackendPolicies A) := rfl
  rw [hA, hB] at hM
  rw [internalBackendPolicies_eq (A ++ B), hM, hA, hB]
  refine ⟨fun f => foldl_append_fields A B f, foldl_append_requestMirror A B, ?_, ?_, foldl_append_llm A B⟩
  · rw [BackendPolicies.merge_authorization rfl rfl, foldl_append_authz]
    exact optOfList_perm List.perm_append_comm
  · rw [BackendPolicies.merge_mcpAuthorization rfl rfl, foldl_append_mcpAuthz]
    exact optOfList_perm List.perm_append_comm

end Append

namespace BackendPolicies

end BackendPolicies

def aiSetting (field : LlmField) (v : String) : BackendTrafficPolicy String :=
  .ai ⟨fun f => if f = field then some v else none, [], [], []⟩

theorem backendPolicies_llm_merge_diverges :
    let A : List (BackendTrafficPolicy String) := [aiSetting .defaults "d"]
    let B : List (BackendTrafficPolicy String) := [aiSetting .promptGuard "g"]
    (internalBackendPolicies (A ++ B)).llm.map (·.fields .promptGuard) = some (some "g") ∧
      (internalBackendPolicies (A ++ B)).llm.map (·.fields .defaults) = some (some "d") ∧
      ((internalBackendPolicies B).merge (internalBackendPolicies A)).llm.map (·.fields .promptGuard) = some none := by
  decide

end AgentGateway.Policy.Backend
