import Mathlib
import AgentGateway.Library.Glob
import AgentGateway.Library.Bytes

/-! The CORS policy of `http/cors.rs` over UTF-8 bytes: the greedy `wildcard_match`, origin
allow-lists and what `Cors::apply` answers. -/

namespace AgentGateway.Http

open Library.Glob Library.Bytes

def asterisk : UInt8 := 42

/-! ### `wildcard_match` -/

/-- The locals of `wildcard_match`'s first loop. The star's match never runs ahead of the value
index, which is what bounds the loop. -/
structure Cursor where
  patternIdx : Nat
  valueIdx : Nat
  starIdx : Option Nat
  starMatchIdx : Nat
  starMatchIdx_le : starMatchIdx ≤ valueIdx

def Cursor.advance (pattern value : List UInt8) (c : Cursor) : Option Cursor :=
  if c.patternIdx < pattern.length ∧
      (pattern[c.patternIdx]? = value[c.valueIdx]? ∨ pattern[c.patternIdx]? = some asterisk) then
    if pattern[c.patternIdx]? = some asterisk then
      some ⟨c.patternIdx + 1, c.valueIdx, some c.patternIdx, c.valueIdx, le_rfl⟩
    else
      some ⟨c.patternIdx + 1, c.valueIdx + 1, c.starIdx, c.starMatchIdx, Nat.le_succ_of_le c.starMatchIdx_le⟩
  else
    match c.starIdx with
    | some starPos => some ⟨starPos + 1, c.starMatchIdx + 1, some starPos, c.starMatchIdx + 1, le_rfl⟩
    | none => none

/-- The order the first loop descends in: the star's match moves right, or it stays and the value
index moves right, or both stay and the pattern index moves right. -/
def Cursor.rank (pattern value : List UInt8) (c : Cursor) : Nat ×ₗ Nat ×ₗ Nat :=
  toLex (value.length - c.starMatchIdx, toLex (value.length - c.valueIdx, pattern.length - c.patternIdx))

lemma Cursor.rank_advance {pattern value : List UInt8} {c c' : Cursor} (hv : c.valueIdx < value.length)
    (h : c.advance pattern value = some c') : c'.rank pattern value < c.rank pattern value := by
  have hm := c.starMatchIdx_le
  unfold Cursor.advance at h
  simp only [Cursor.rank, Prod.Lex.toLex_lt_toLex]
  split_ifs at h with hmatch hstar
  · -- a star: its match jumps to the value index, or the pattern index alone moves
    cases h
    dsimp only
    by_cases hlt : c.starMatchIdx < c.valueIdx
    · exact .inl (by omega)
    · exact .inr ⟨by omega, .inr ⟨rfl, by omega⟩⟩
  · cases h
    exact .inr ⟨rfl, .inl (by dsimp only; omega)⟩
  · split at h
    · cases h
      exact .inl (by dsimp only; omega)
    · cases h

-- the linter does not see the use of the match hypothesis in the termination proof
set_option linter.unusedVariables false in
def scan (pattern value : List UInt8) (c : Cursor) : Option Cursor :=
  if hv : c.valueIdx < value.length then
    match h : c.advance pattern value with
    | some c' => scan pattern value c'
    | none => none
  else some c
termination_by c.rank pattern value
decreasing_by exact Cursor.rank_advance hv h

lemma scan_of_lt {pattern value : List UInt8} {c : Cursor} (hv : c.valueIdx < value.length) :
    scan pattern value c = (c.advance pattern value).bind (scan pattern value) := by
  rw [scan, dif_pos hv]
  split <;> rename_i h <;> rw [h] <;> rfl

lemma scan_of_le {pattern value : List UInt8} {c : Cursor} (hv : value.length ≤ c.valueIdx) :
    scan pattern value c = some c := by
  rw [scan, dif_neg (Nat.not_lt_of_le hv)]

def skipStars (pattern : List UInt8) (patternIdx : Nat) : Nat :=
  if patternIdx < pattern.length ∧ pattern[patternIdx]? = some asterisk then skipStars pattern (patternIdx + 1)
  else patternIdx
termination_by pattern.length - patternIdx

def wildcardMatch (pattern value : List UInt8) : Bool :=
  match scan pattern value ⟨0, 0, none, 0, le_rfl⟩ with
  | some c => skipStars pattern c.patternIdx == pattern.length
  | none => false

def hostMatches (pattern host : List UInt8) : Bool :=
  if pattern = [asterisk] then true
  else if asterisk ∉ pattern then pattern == host
  else wildcardMatch pattern host

/-! ### The first loop's invariant -/

section Scan

variable {pattern value : List UInt8} {c c' : Cursor} {i j k s : Nat}

def Rest (pattern value : List UInt8) (i j : Nat) : Prop :=
  value.drop j ∈ lang asterisk (pattern.drop i)

/-- Since the star at `s`, the pattern past the star and the value from the star's match agree on
a star-free word that ends at the cursor. -/
def Cursor.Stretch (pattern value : List UInt8) (s : Nat) (c : Cursor) : Prop :=
  ∃ lit, asterisk ∉ lit ∧ pattern.drop (s + 1) = lit ++ pattern.drop c.patternIdx ∧
    value.drop c.starMatchIdx = lit ++ value.drop c.valueIdx

def Cursor.Reduces (pattern value : List UInt8) (c : Cursor) : Prop :=
  match c.starIdx with
  | none => (value ∈ lang asterisk pattern ↔ Rest pattern value c.patternIdx c.valueIdx)
  | some s => s < c.patternIdx ∧ c.Stretch pattern value s ∧
      (value ∈ lang asterisk pattern ↔ ∃ k, c.starMatchIdx ≤ k ∧ Rest pattern value (s + 1) k)

structure Cursor.Inv (pattern value : List UInt8) (c : Cursor) : Prop where
  valueIdx_le : c.valueIdx ≤ value.length
  patternIdx_le : c.patternIdx ≤ pattern.length
  reduces : c.Reduces pattern value

lemma rest_star_iff (h : pattern[i]? = some asterisk) :
    Rest pattern value i j ↔ ∃ k, j ≤ k ∧ Rest pattern value (i + 1) k := by
  unfold Rest
  rw [drop_eq_cons_of_getElem? h, drop_mem_lang_star_cons]

lemma rest_lit_iff {b : UInt8} (hb : b ≠ asterisk) (hp : pattern[i]? = some b) (hv : value[j]? = some b) :
    Rest pattern value i j ↔ Rest pattern value (i + 1) (j + 1) := by
  unfold Rest
  rw [drop_eq_cons_of_getElem? hp, drop_mem_lang_lit_cons hb hv]

lemma not_rest_of_mismatch (hj : j < value.length)
    (h : ¬(i < pattern.length ∧ (pattern[i]? = value[j]? ∨ pattern[i]? = some asterisk))) :
    ¬Rest pattern value i j := by
  apply drop_not_mem_lang_of_mismatch hj
  by_cases hi : i < pattern.length
  · refine .inr ⟨pattern[i], pattern.drop (i + 1), List.drop_eq_getElem_cons hi, fun heq => ?_, fun heq => ?_⟩
    · exact h ⟨hi, .inr (by rw [List.getElem?_eq_getElem hi, heq])⟩
    · exact h ⟨hi, .inl (by rw [List.getElem?_eq_getElem hi, heq])⟩
  · exact .inl (List.drop_eq_nil_iff.2 (by omega))

lemma Cursor.Stretch.rest_iff (hs : c.Stretch pattern value s) :
    Rest pattern value (s + 1) c.starMatchIdx ↔ Rest pattern value c.patternIdx c.valueIdx := by
  obtain ⟨lit, hlit, hp, hv⟩ := hs
  unfold Rest
  rw [hp, hv, mem_lang_literal_append hlit]
  constructor
  · rintro ⟨w, hw, hwl⟩
    rwa [List.append_cancel_left hw]
  · exact fun h => ⟨_, rfl, h⟩

lemma Cursor.Stretch.rest_shift (hs : c.Stretch pattern value s) (hvi : c.valueIdx ≤ value.length)
    (hk : Rest pattern value (s + 1) k) :
    Rest pattern value c.patternIdx (k + (c.valueIdx - c.starMatchIdx)) := by
  obtain ⟨lit, hlit, hp, hv⟩ := hs
  have hlen : lit.length = c.valueIdx - c.starMatchIdx := by
    have hl := congrArg List.length hv
    simp only [List.length_drop, List.length_append] at hl
    have := c.starMatchIdx_le
    omega
  unfold Rest at hk ⊢
  rw [hp, mem_lang_literal_append hlit] at hk
  obtain ⟨w, hw, hwl⟩ := hk
  rwa [← hlen, ← eq_drop_of_drop_eq_append hw]

lemma Cursor.Inv.reduces_none (hi : c.Inv pattern value) (hs : c.starIdx = none) :
    value ∈ lang asterisk pattern ↔ Rest pattern value c.patternIdx c.valueIdx := by
  have h := hi.reduces
  unfold Cursor.Reduces at h
  rwa [hs] at h

lemma Cursor.Inv.reduces_some (hi : c.Inv pattern value) (hs : c.starIdx = some s) :
    s < c.patternIdx ∧ c.Stretch pattern value s ∧
      (value ∈ lang asterisk pattern ↔ ∃ k, c.starMatchIdx ≤ k ∧ Rest pattern value (s + 1) k) := by
  have h := hi.reduces
  unfold Cursor.Reduces at h
  rwa [hs] at h

lemma Cursor.Inv.mem_iff_of_star (hi : c.Inv pattern value) (hp : pattern[c.patternIdx]? = some asterisk) :
    value ∈ lang asterisk pattern ↔ Rest pattern value c.patternIdx c.valueIdx := by
  rcases hs : c.starIdx with _ | s
  · exact hi.reduces_none hs
  · obtain ⟨-, hst, hiff⟩ := hi.reduces_some hs
    rw [hiff]
    constructor
    · rintro ⟨k, hk, hrest⟩
      obtain ⟨k', hk', hrest'⟩ := (rest_star_iff hp).1 (hst.rest_shift hi.valueIdx_le hrest)
      exact (rest_star_iff hp).2 ⟨k', by omega, hrest'⟩
    · exact fun h => ⟨_, le_rfl, hst.rest_iff.2 h⟩

lemma Cursor.Stretch.step {b : UInt8} (hs : c.Stretch pattern value s) (hb : b ≠ asterisk)
    (hp : pattern[c.patternIdx]? = some b) (hv : value[c.valueIdx]? = some b) :
    Cursor.Stretch pattern value s
      ⟨c.patternIdx + 1, c.valueIdx + 1, c.starIdx, c.starMatchIdx, Nat.le_succ_of_le c.starMatchIdx_le⟩ := by
  obtain ⟨lit, hlit, hpl, hvl⟩ := hs
  refine ⟨lit ++ [b], ?_, ?_, ?_⟩
  · simpa [hlit] using hb.symm
  · rw [hpl, drop_eq_cons_of_getElem? hp]
    simp
  · rw [hvl, drop_eq_cons_of_getElem? hv]
    simp

lemma Cursor.Stretch.start (s : Nat) (pattern value : List UInt8) (vi : Nat) :
    Cursor.Stretch pattern value s ⟨s + 1, vi, some s, vi, le_rfl⟩ :=
  ⟨[], List.not_mem_nil, rfl, rfl⟩

lemma Cursor.Inv.advance (hi : c.Inv pattern value) (hv : c.valueIdx < value.length)
    (h : c.advance pattern value = some c') : c'.Inv pattern value := by
  unfold Cursor.advance at h
  split_ifs at h with hmatch hstar
  · -- a star: it becomes the backtrack point, matching nothing so far
    cases h
    refine ⟨hi.valueIdx_le, hmatch.1, ⟨Nat.lt_succ_self _, Cursor.Stretch.start _ _ _ _, ?_⟩⟩
    rw [hi.mem_iff_of_star hstar, rest_star_iff hstar]
  · -- a literal the value agrees with
    cases h
    obtain ⟨b, hb⟩ : ∃ b, pattern[c.patternIdx]? = some b :=
      ⟨pattern[c.patternIdx], List.getElem?_eq_getElem hmatch.1⟩
    have hvb : value[c.valueIdx]? = some b := (hmatch.2.resolve_right hstar) ▸ hb
    have hne : b ≠ asterisk := fun heq => hstar (heq ▸ hb)
    refine ⟨hv, hmatch.1, ?_⟩
    rcases hs : c.starIdx with _ | s
    · show value ∈ lang asterisk pattern ↔ _
      rw [hi.reduces_none hs, rest_lit_iff hne hb hvb]
    · obtain ⟨hlt, hst, hiff⟩ := hi.reduces_some hs
      have hst' := hst.step hne hb hvb
      rw [hs] at hst'
      exact ⟨Nat.lt_succ_of_lt hlt, hst', hiff⟩
  · -- a mismatch: retry past the last star with its match one longer
    split at h
    · rename_i s hs
      cases h
      obtain ⟨hlt, hst, hiff⟩ := hi.reduces_some hs
      have hno : ¬Rest pattern value (s + 1) c.starMatchIdx :=
        fun hr => not_rest_of_mismatch hv hmatch (hst.rest_iff.1 hr)
      have hm := c.starMatchIdx_le
      refine ⟨by dsimp only; omega, by dsimp only; have := hi.patternIdx_le; omega,
        ⟨Nat.lt_succ_self _, Cursor.Stretch.start _ _ _ _, ?_⟩⟩
      rw [hiff]
      constructor
      · rintro ⟨k, hk, hr⟩
        rcases Nat.eq_or_lt_of_le hk with rfl | hk'
        · exact absurd hr hno
        · exact ⟨k, hk', hr⟩
      · rintro ⟨k, hk, hr⟩
        exact ⟨k, Nat.le_of_succ_le hk, hr⟩
    · cases h

lemma Cursor.Inv.not_mem_of_advance_none (hi : c.Inv pattern value) (hv : c.valueIdx < value.length)
    (h : c.advance pattern value = none) : value ∉ lang asterisk pattern := by
  unfold Cursor.advance at h
  split_ifs at h with hmatch
  split at h
  · cases h
  · rename_i hs
    rw [hi.reduces_none hs]
    exact not_rest_of_mismatch hv hmatch

lemma Cursor.Inv.scan (hi : c.Inv pattern value) :
    (∀ c', scan pattern value c = some c' → c'.Inv pattern value ∧ value.length ≤ c'.valueIdx) ∧
      (scan pattern value c = none → value ∉ lang asterisk pattern) := by
  induction c using Http.scan.induct pattern value with
  | case1 c hv c' h ih =>
    rw [scan_of_lt hv, h]
    exact ih (hi.advance hv h)
  | case2 c hv h =>
    rw [scan_of_lt hv, h]
    refine ⟨fun _ h' => (nomatch h'), fun _ => hi.not_mem_of_advance_none hv h⟩
  | case3 c hv =>
    rw [scan_of_le (Nat.le_of_not_lt hv)]
    refine ⟨fun c' h' => ?_, fun h' => nomatch h'⟩
    cases h'
    exact ⟨hi, Nat.le_of_not_lt hv⟩

end Scan

def colon : UInt8 := 58

def schemeSeparator : List UInt8 := [58, 47, 47]

def isPathByte (b : UInt8) : Bool := b == 47 || b == 63 || b == 35

inductive OriginScheme where
  | http
  | https
  deriving DecidableEq, Repr

namespace OriginScheme

def parse (value : List UInt8) : Option OriginScheme :=
  -- "http" and "https"
  if eqIgnoreAsciiCase value [104, 116, 116, 112] then some .http
  else if eqIgnoreAsciiCase value [104, 116, 116, 112, 115] then some .https
  else none

def defaultPort : OriginScheme → Nat
  | .http => 80
  | .https => 443

end OriginScheme

structure ParsedOrigin where
  scheme : OriginScheme
  host : List UInt8
  port : Nat
  deriving DecidableEq, Repr

/-- The `match host_port.rsplit_once(':')` of `ParsedOrigin::parse`: an explicit port must be a
nonzero `u16` after a colon-free host, and without one the scheme's port applies. -/
def splitHostPort (scheme : OriginScheme) (hostPort : List UInt8) : Option (List UInt8 × Nat) :=
  match rsplitOnce colon hostPort with
  | some (host, port) =>
    if host.isEmpty || host.contains colon || port.isEmpty || !port.all isAsciiDigit then none
    else
      match parseDigitsU16 port with
      | some port => if port = 0 then none else some (host, port)
      | none => none
  | none => some (hostPort, scheme.defaultPort)

def ParsedOrigin.parse (value : List UInt8) (allowWildcardHost : Bool) : Option ParsedOrigin :=
  match splitOnce schemeSeparator value with
  | none => none
  | some (scheme, hostPort) =>
    match OriginScheme.parse scheme with
    | none => none
    | some scheme =>
      if hostPort.isEmpty || hostPort.any isPathByte then none
      else
        match splitHostPort scheme hostPort with
        | none => none
        | some (host, port) =>
          if host.isEmpty || (!allowWildcardHost && host.contains asterisk) then none
          else some ⟨scheme, host.map toAsciiLowercase, port⟩

example : ParsedOrigin.parse ("HTTP://Example.com:080".toList.map Char.toUInt8) false =
    some ⟨.http, "example.com".toList.map Char.toUInt8, 80⟩ := by decide

def matchesAllowedOrigin (allowedOrigin : List UInt8) (requestOrigin : ParsedOrigin) : Bool :=
  match ParsedOrigin.parse allowedOrigin true with
  | none => false
  | some allowedOrigin =>
    allowedOrigin.scheme == requestOrigin.scheme && allowedOrigin.port == requestOrigin.port &&
      hostMatches allowedOrigin.host requestOrigin.host

inductive WildcardOrList (α : Type) where
  | none
  | wildcard
  | list (items : List α)

structure Cors where
  allowCredentials : Bool
  allowHeaders : WildcardOrList (List UInt8)
  allowMethods : WildcardOrList (List UInt8)
  allowOrigins : WildcardOrList (List UInt8)
  exposeHeaders : WildcardOrList (List UInt8)
  maxAge : Option (List UInt8)

/-- What `Cors::apply` reads of a request: its method and the first value of each header it looks
up. -/
structure Request where
  method : List UInt8
  origin : Option (List UInt8)
  accessControlRequestMethod : Option (List UInt8)
  accessControlRequestHeaders : Option (List UInt8)

def optionsMethod : List UInt8 := [79, 80, 84, 73, 79, 78, 83]

inductive CorsHeader where
  | accessControlAllowOrigin
  | accessControlAllowMethods
  | accessControlAllowHeaders
  | accessControlMaxAge
  | accessControlAllowCredentials
  | accessControlExposeHeaders
  deriving DecidableEq, Repr

structure Response where
  status : Nat
  headers : List (CorsHeader × List UInt8)

structure PolicyResponse where
  directResponse : Option Response := none
  responseHeaders : Option (List (CorsHeader × List UInt8)) := none

def headerValueTrue : List UInt8 := [116, 114, 117, 101]

def toStr (value : List UInt8) : Option (List UInt8) :=
  if value.all fun b => (32 ≤ b && b < 127) || b == 9 then some value else none

def normalizeTokenHeaderValue (value : List UInt8) : Option (List UInt8) :=
  (toStr value).bind fun value =>
    let value := trim value
    if value.isEmpty then none else some value

def normalizeCsvHeaderValue (value : List UInt8) : Option (List UInt8) :=
  (toStr value).bind fun value =>
    -- split(',') then trim, drop empty entries, join(", ")
    let normalized := [44, 32].intercalate (((split 44 value).map trim).filter fun entry => !entry.isEmpty)
    if normalized.isEmpty then none else some normalized

def WildcardOrList.toHeaderValue : WildcardOrList (List UInt8) → Option (List UInt8)
  | .none => .none
  | .wildcard => some [asterisk]
  | .list items => some ([44].intercalate items)

namespace Cors

/-- The two `preflight_allow_*` functions: echo the request's header when the policy allows
any, or else a wildcard unless credentials are allowed. -/
def preflightAllow (allowCredentials : Bool) (allow : WildcardOrList (List UInt8))
    (normalize : List UInt8 → Option (List UInt8)) (requested : Option (List UInt8)) : Option (List UInt8) :=
  match allow with
  | .none => none
  | .wildcard =>
    match requested.bind normalize with
    | some value => some value
    | none => if allowCredentials then none else some [asterisk]
  | .list _ => allow.toHeaderValue

def preflightAllowMethods (cors : Cors) (req : Request) : Option (List UInt8) :=
  preflightAllow cors.allowCredentials cors.allowMethods normalizeTokenHeaderValue req.accessControlRequestMethod

def preflightAllowHeaders (cors : Cors) (req : Request) : Option (List UInt8) :=
  preflightAllow cors.allowCredentials cors.allowHeaders normalizeCsvHeaderValue req.accessControlRequestHeaders

def originAllowed (cors : Cors) (origin : List UInt8) : Bool :=
  match cors.allowOrigins with
  | .none => false
  | .wildcard => true
  | .list origins =>
    match (toStr origin).bind fun value => ParsedOrigin.parse value false with
    | some requestOrigin => origins.any fun allowedOrigin => matchesAllowedOrigin allowedOrigin requestOrigin
    | none => false

def header (name : CorsHeader) (value : Option (List UInt8)) : List (CorsHeader × List UInt8) :=
  value.toList.map fun v => (name, v)

def preflightHeaders (cors : Cors) (req : Request) : List (CorsHeader × List UInt8) :=
  header .accessControlAllowMethods (cors.preflightAllowMethods req) ++
    header .accessControlAllowHeaders (cors.preflightAllowHeaders req) ++
    header .accessControlMaxAge cors.maxAge ++
    header .accessControlAllowCredentials (if cors.allowCredentials then some headerValueTrue else none) ++
    header .accessControlExposeHeaders cors.exposeHeaders.toHeaderValue

def actualHeaders (cors : Cors) : List (CorsHeader × List UInt8) :=
  header .accessControlAllowCredentials (if cors.allowCredentials then some headerValueTrue else none) ++
    header .accessControlExposeHeaders cors.exposeHeaders.toHeaderValue

def apply (cors : Cors) (req : Request) : PolicyResponse :=
  match req.origin with
  | none => {}
  | some origin =>
    let isPreflight :=
      req.method == optionsMethod && (req.accessControlRequestMethod.map fun v => !v.isEmpty).getD false
    if !cors.originAllowed origin then
      -- a disallowed preflight is answered locally with no CORS headers; anything else passes
      if isPreflight then { directResponse := some ⟨200, []⟩ } else {}
    else if req.method == optionsMethod then
      { directResponse := some ⟨200, (.accessControlAllowOrigin, origin) :: cors.preflightHeaders req⟩ }
    else { responseHeaders := some ((.accessControlAllowOrigin, origin) :: cors.actualHeaders) }

end Cors

namespace Cors

end Cors

end AgentGateway.Http
