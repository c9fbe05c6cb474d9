import AgentGateway.Library.Text

/-! How the MCP relay multiplexes upstream targets in tool names and resource URIs
(`mcp/handler.rs`, `mcp/apps.rs`), and how it splits them back. -/

namespace AgentGateway.Mcp

open Library.Text

/-! ### Target names -/

def isLowerAlnum (c : Char) : Bool := c.isLower || c.isDigit

/-- The states of `MCP_TARGET_NAME_RE` read from the left: at the start of a label, after a letter
or digit, after a `-`. -/
inductive LabelState where
  | start
  | alnum
  | dash
  deriving DecidableEq, Repr

def stepLabel : LabelState → Char → Option LabelState
  | .start, c => if isLowerAlnum c then some .alnum else none
  | .alnum, c =>
    if isLowerAlnum c then some .alnum else if c = '-' then some .dash else if c = '.' then some .start
    else none
  | .dash, c => if isLowerAlnum c then some .alnum else if c = '-' then some .dash else none

def matchesTargetNameRe (name : List Char) : Bool :=
  name.foldlM stepLabel .start == some .alnum

def mcpTargetNameMaxLen : Nat := 253

inductive TargetNameError where
  | empty
  | tooLong (len : Nat)
  | pattern
  deriving DecidableEq, Repr

def validateMcpTargetName (name : List Char) : Except TargetNameError Unit :=
  if name.isEmpty then .error .empty
  else if byteLen name > mcpTargetNameMaxLen then .error (.tooLong (byteLen name))
  else if !matchesTargetNameRe name then .error .pattern
  else .ok ()

/-! ### Encoders -/

def delimiter : Char := '_'

def resourceName (prefixNames : Bool) (target name : List Char) : List Char :=
  if prefixNames then target ++ delimiter :: name else name

def schemeTail (i : Nat) : List Char → Option Nat
  | [] => none
  | c :: rest =>
    if c.isAlphanum || c = '+' || c = '-' || c = '.' then schemeTail (i + 1) rest
    else if c = ':' then some i
    else none

def uriSchemePrefixLen : List Char → Option Nat
  | [] => none
  | c :: rest => if c.isAlpha then schemeTail 1 rest else none

def uiScheme : List Char := "ui://".toList

def stripUiScheme (uri : List Char) : Option (List Char) :=
  if 5 ≤ uri.length ∧ (uri.take 5).map Char.toLower = uiScheme then some (uri.drop 5) else none

def isUiUri (uri : List Char) : Bool := (stripUiScheme uri).isSome

def encodeUiUri (target uri : List Char) : Option (List Char) :=
  (stripUiScheme uri).map fun rest => uiScheme ++ target ++ '+' :: rest

def resourceUri (defaultTargetName : Option (List Char)) (target uri : List Char) : List Char :=
  match defaultTargetName with
  | none =>
    match encodeUiUri target uri with
    | some rewritten => rewritten
    | none => if (uriSchemePrefixLen uri).isSome then target ++ '+' :: uri else uri
  | some _ => uri

/-! ### Decoders -/

/-- `decode_ui_uri`: the delimiter is the first `+` of the authority, which ends at the first `/`,
`?` or `#`. -/
def decodeUiUri (uri : List Char) : Option (List Char × List Char) := do
  let rest ← stripUiScheme uri
  let authorityEnd := (rest.findIdx? fun c => c = '/' || c = '?' || c = '#').getD rest.length
  let plus ← (rest.take authorityEnd).findIdx? (· == '+')
  let target := rest.take plus
  if target.isEmpty then none else some (target, uiScheme ++ rest.drop (plus + 1))

structure Relay where
  defaultTargetName : Option (List Char)
  names : List (List Char)

abbrev InvalidRequest := List Char

namespace Relay

def getName (r : Relay) (name : List Char) : Option (List Char) :=
  if name ∈ r.names then some name else none

def parseResourceName (r : Relay) (res : List Char) : Except InvalidRequest (List Char × List Char) :=
  match r.defaultTargetName with
  | some default => .ok (default, res)
  | none =>
    match splitOnce delimiter res with
    | some parts => .ok parts
    | none => .error "invalid resource name".toList

def validated (r : Relay) (serviceName original : List Char) : Except InvalidRequest (List Char × List Char) :=
  match r.getName serviceName with
  | some validatedName => .ok (validatedName, original)
  | none => .error ("unknown service ".toList ++ serviceName)

def parseResourceUri (r : Relay) (uri : List Char) : Except InvalidRequest (List Char × List Char) :=
  match r.defaultTargetName with
  | some default => .ok (default, uri)
  | none =>
    if isUiUri uri then
      match decodeUiUri uri with
      | some (serviceName, originalUri) => r.validated serviceName originalUri
      | none => .error "invalid resource URI".toList
    else
      match uri.findIdx? (· == '+') with
      | none => .error "invalid resource URI".toList
      | some plusPos =>
        -- ui:// resources use the ui://service+rest namespace exclusively
        if isUiUri (uri.drop (plusPos + 1)) then .error "invalid resource URI".toList
        else r.validated (uri.take plusPos) (uri.drop (plusPos + 1))

end Relay

/-! ### Valid target names hold none of the delimiters -/

section TargetName

variable {t : List Char}

def NameChar (c : Char) : Prop := isLowerAlnum c = true ∨ c = '-' ∨ c = '.'

instance : DecidablePred NameChar := fun _ => inferInstanceAs (Decidable (_ ∨ _ ∨ _))

lemma nameChar_of_stepLabel {q q' : LabelState} {c : Char} (h : stepLabel q c = some q') : NameChar c := by
  cases q with
  | start =>
    simp only [stepLabel] at h
    split_ifs at h with h1
    exact .inl h1
  | alnum =>
    simp only [stepLabel] at h
    split_ifs at h with h1 h2 h3
    · exact .inl h1
    · exact .inr (.inl h2)
    · exact .inr (.inr h3)
  | dash =>
    simp only [stepLabel] at h
    split_ifs at h with h1 h2
    · exact .inl h1
    · exact .inr (.inl h2)

lemma nameChar_of_foldlM : ∀ {q q' : LabelState} {l : List Char}, l.foldlM stepLabel q = some q' →
    ∀ c ∈ l, NameChar c
  | _, _, [], _, c, hc => absurd hc List.not_mem_nil
  | _, _, x :: l, h, c, hc => by
    rw [List.foldlM_cons] at h
    obtain ⟨q₁, h₁, h⟩ := Option.bind_eq_some_iff.1 h
    rcases List.mem_cons.1 hc with rfl | hc
    · exact nameChar_of_stepLabel h₁
    · exact nameChar_of_foldlM h c hc

structure ValidTarget (t : List Char) : Prop where
  ne_nil : t ≠ []
  nameChars : ∀ c ∈ t, NameChar c

lemma validTarget_of_validate (h : validateMcpTargetName t = .ok ()) : ValidTarget t := by
  unfold validateMcpTargetName at h
  split_ifs at h with h0 h1 h2
  refine ⟨fun ht => by simp [ht] at h0, @nameChar_of_foldlM .start .alnum t ?_⟩
  simpa [matchesTargetNameRe] using h2

lemma ValidTarget.not_mem (h : ValidTarget t) {c : Char} (hc : ¬ NameChar c) : c ∉ t :=
  fun hm => hc (h.nameChars c hm)

lemma ValidTarget.beq_false (h : ValidTarget t) {c : Char} (hc : ¬ NameChar c) : ∀ x ∈ t, (x == c) = false :=
  fun _ hx => beq_eq_false_iff_ne.2 fun hxc => h.not_mem hc (hxc ▸ hx)

end TargetName

/-! ### Decoding what was encoded -/

section RoundTrip

variable {r : Relay} {t u rest : List Char}

lemma stripUiScheme_uiScheme_append (w : List Char) : stripUiScheme (uiScheme ++ w) = some w := by
  have hlen : uiScheme.length = 5 := rfl
  unfold stripUiScheme
  rw [if_pos ⟨by simp [hlen], by rw [List.take_left' hlen]; decide⟩, List.drop_left' hlen]

lemma stripUiScheme_prefixed (ht : ValidTarget t) (u : List Char) : stripUiScheme (t ++ '+' :: u) = none := by
  unfold stripUiScheme
  rw [if_neg]
  rintro ⟨-, h⟩
  by_cases hlen : t.length < 5
  · obtain ⟨k, hk⟩ : ∃ k, 5 - t.length = k + 1 := ⟨4 - t.length, by omega⟩
    have hmem : '+' ∈ (t ++ '+' :: u).take 5 := by
      rw [List.take_append, hk]
      exact List.mem_append_right _ List.mem_cons_self
    have hlow := List.mem_map_of_mem (f := Char.toLower) hmem
    rw [h] at hlow
    exact absurd hlow (by decide)
  · rw [List.take_append_of_le_length (by omega)] at h
    have hcolon : ':' ∈ (t.take 5).map Char.toLower := by
      rw [h]
      decide
    obtain ⟨c, hc, hlow⟩ := List.mem_map.1 hcolon
    obtain rfl := eq_of_toLower_eq (by decide) hlow
    exact ht.not_mem (by decide) (List.mem_of_mem_take hc)

lemma resourceUri_of_ui (hu : stripUiScheme u = some rest) :
    resourceUri none t u = uiScheme ++ t ++ '+' :: rest := by
  simp [resourceUri, encodeUiUri, hu]

lemma resourceUri_of_scheme (hs : (uriSchemePrefixLen u).isSome) (hu : isUiUri u = false) :
    resourceUri none t u = t ++ '+' :: u := by
  have hu' : stripUiScheme u = none := by simpa [isUiUri] using hu
  simp [resourceUri, encodeUiUri, hu', hs]

lemma Relay.validated_of_mem (hk : t ∈ r.names) (original : List Char) :
    r.validated t original = .ok (t, original) := by
  simp [Relay.validated, Relay.getName, hk]

lemma decodeUiUri_encoded (ht : ValidTarget t) (rest : List Char) :
    decodeUiUri (uiScheme ++ t ++ '+' :: rest) = some (t, uiScheme ++ rest) := by
  unfold decodeUiUri
  rw [List.append_assoc, stripUiScheme_uiScheme_append]
  dsimp only [Option.bind_eq_bind, Option.bind]
  set p : Char → Bool := fun c => c = '/' || c = '?' || c = '#' with hp
  have hpt : ∀ x ∈ t ++ ['+'], p x = false := by
    intro x hx
    rcases List.mem_append.1 hx with hx | hx
    · simp only [hp, Bool.or_eq_false_iff, decide_eq_false_iff_not]
      exact ⟨⟨fun h => ht.not_mem (by decide) (h ▸ hx), fun h => ht.not_mem (by decide) (h ▸ hx)⟩,
        fun h => ht.not_mem (by decide) (h ▸ hx)⟩
    · rw [List.mem_singleton.1 hx]
      decide
  -- the authority ends at or after the character following the `+`
  obtain ⟨k, hk⟩ : ∃ k, ((t ++ '+' :: rest).findIdx? p).getD (t ++ '+' :: rest).length = t.length + 1 + k := by
    have hsplit : t ++ '+' :: rest = (t ++ ['+']) ++ rest := by simp
    rw [hsplit, findIdx?_append_of_forall hpt]
    rcases (rest.findIdx? p) with _ | i
    · exact ⟨rest.length, by simp; omega⟩
    · exact ⟨i, by simp; omega⟩
  have htake : (t ++ '+' :: rest).take (t.length + 1 + k) = t ++ '+' :: rest.take k := by
    rw [List.take_append, List.take_of_length_le (by omega)]
    simp [show t.length + 1 + k - t.length = k + 1 by omega]
  have hplus : (t ++ '+' :: rest.take k).findIdx? (· == '+') = some t.length :=
    findIdx?_append_cons (ht.beq_false (by decide)) (by decide)
  have hne : ((t ++ '+' :: rest).take t.length).isEmpty = false := by
    rw [List.take_left' rfl]
    exact List.isEmpty_eq_false_iff.2 ht.ne_nil
  rw [hk, htake, hplus]
  dsimp only
  rw [hne, if_neg Bool.false_ne_true, List.take_left' rfl]
  simp

lemma Relay.parseResourceUri_ui (hr : r.defaultTargetName = none) (ht : ValidTarget t) (hk : t ∈ r.names)
    (rest : List Char) : r.parseResourceUri (uiScheme ++ t ++ '+' :: rest) = .ok (t, uiScheme ++ rest) := by
  have hui : isUiUri (uiScheme ++ t ++ '+' :: rest) = true := by
    simp [isUiUri, List.append_assoc, stripUiScheme_uiScheme_append]
  unfold Relay.parseResourceUri
  rw [hr]
  dsimp only
  rw [if_pos hui, decodeUiUri_encoded ht rest]
  exact Relay.validated_of_mem hk _

lemma Relay.parseResourceUri_prefixed (hr : r.defaultTargetName = none) (ht : ValidTarget t) (hk : t ∈ r.names)
    (hu : isUiUri u = false) : r.parseResourceUri (t ++ '+' :: u) = .ok (t, u) := by
  have hplus : (t ++ '+' :: u).findIdx? (· == '+') = some t.length :=
    findIdx?_append_cons (ht.beq_false (by decide)) (by decide)
  have hui : isUiUri (t ++ '+' :: u) = false := by simp [isUiUri, stripUiScheme_prefixed ht]
  have hdrop : (t ++ '+' :: u).drop (t.length + 1) = u := by simp
  unfold Relay.parseResourceUri
  rw [hr]
  dsimp only
  rw [if_neg (by simp [hui]), hplus]
  dsimp only
  rw [hdrop, if_neg (by simp [hu]), List.take_left' rfl]
  exact Relay.validated_of_mem hk _

lemma Relay.parseResourceName_prefixed (hr : r.defaultTargetName = none) (ht : ValidTarget t) (n : List Char) :
    r.parseResourceName (resourceName true t n) = .ok (t, n) := by
  unfold Relay.parseResourceName resourceName
  rw [hr]
  dsimp only
  rw [if_pos rfl, splitOnce_append (ht.not_mem (by decide))]

end RoundTrip

/-- An Apps URI is re-emitted with the scheme spelled `ui://` whatever case it came in, so the
relay hands the upstream a URI that differs from the one the upstream listed. -/
theorem ui_scheme_case_lost :
    validateMcpTargetName "t".toList = .ok () ∧
      Relay.parseResourceUri ⟨none, ["t".toList]⟩ (resourceUri none "t".toList "UI://x".toList) =
        .ok ("t".toList, "ui://x".toList) ∧
      "ui://x".toList ≠ "UI://x".toList := by
  decide

/-- With no default target, the relay decodes what it encoded for every valid, known target: a
prefixed name and a scheme-prefixed URI give back exactly what went in, and a `ui://` URI gives
back its text after the scheme under the scheme `ui://`. -/
theorem multiplexed_names_round_trip (r : Relay) (hr : r.defaultTargetName = none) (t : List Char)
    (hvalid : validateMcpTargetName t = .ok ()) (hknown : t ∈ r.names) :
    (∀ n, r.parseResourceName (resourceName true t n) = .ok (t, n)) ∧
      (∀ u, (uriSchemePrefixLen u).isSome → isUiUri u = false →
        r.parseResourceUri (resourceUri none t u) = .ok (t, u)) ∧
      (∀ u rest, stripUiScheme u = some rest →
        r.parseResourceUri (resourceUri none t u) = .ok (t, uiScheme ++ rest)) := by
  have ht := validTarget_of_validate hvalid
  refine ⟨fun n => Relay.parseResourceName_prefixed hr ht n, fun u hs hu => ?_, fun u rest hu => ?_⟩
  · rw [resourceUri_of_scheme hs hu]
    exact Relay.parseResourceUri_prefixed hr ht hknown hu
  · rw [resourceUri_of_ui hu]
    exact Relay.parseResourceUri_ui hr ht hknown rest

theorem multiplexed_names_round_trip_svc :
    validateMcpTargetName "svc".toList = .ok () ∧ "svc".toList ∈ ["svc".toList] ∧
      (∀ n, Relay.parseResourceName ⟨none, ["svc".toList]⟩ (resourceName true "svc".toList n) =
        .ok ("svc".toList, n)) :=
  ⟨by decide, by decide,
    (multiplexed_names_round_trip ⟨none, ["svc".toList]⟩ rfl "svc".toList (by decide) (by decide)).1⟩


end AgentGateway.Mcp
