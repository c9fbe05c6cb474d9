import AgentGateway.Cel.Eval

/-! The optimizer pass of `cel-fork` and celx's `DefaultOptimizer`; the pass keeps what every
expression resolves to when each rewrite does, and `compile_with_optimizer` does not. -/

namespace AgentGateway.Cel

open Library.Serde Library.Serde.SerdeJson

variable {C A R : Type}

def inlineValues : List (Expr C A R) → Option (List (Value C A R))
  | [] => some []
  | .literal v :: es => (inlineValues es).map (v :: ·)
  | .inline v :: es => (inlineValues es).map (v :: ·)
  | _ :: _ => none

section Pass

variable (opt : Expr C A R → Option (Expr C A R))

mutual

def optimize : Expr C A R → Expr C A R
  | .call f target args =>
    let e := Expr.call f (optimizeTarget target) (optimizeList args)
    (opt e).getD e
  | .select operand field test =>
    let e := Expr.select (optimize operand) field test
    (opt e).getD e
  | .list elements =>
    let e := match inlineValues (optimizeList elements) with
      | some vs => Expr.inline (.list vs)
      | none => Expr.list (optimizeList elements)
    (opt e).getD e
  | .literal v => (opt (.inline v)).getD (.inline v)
  | .inline v => (opt (.inline v)).getD (.inline v)
  | .ident n => (opt (.ident n)).getD (.ident n)

def optimizeList : List (Expr C A R) → List (Expr C A R)
  | [] => []
  | e :: es => optimize e :: optimizeList es

def optimizeTarget : Option (Expr C A R) → Option (Expr C A R)
  | none => none
  | some e => some (optimize e)

end

end Pass

def compile (e : Expr C A R) : Expr C A R := optimize (fun _ => none) e

/-! ### celx's `DefaultOptimizer` -/

def exprAsValue : Expr C A R → Option (Value C A R)
  | .literal v => some v
  | .inline v => some v
  | _ => none

def specializeMember (operand : Expr C A R) (field : List Char) (test : Bool) : Option (Expr C A R) :=
  if test then none
  else
    match operand with
    | .call f none [arg] =>
      if f = "json".toList then some (.call "jsonField".toList none [arg, .inline (.string field)]) else none
    | _ => none

/-- `specialize_call`: `cidr` and `ip` of a string that parses become the parsed value, and
`s.matches(r)` of a regex that compiles becomes `r.precompiled_matches(s)`. -/
def specializeCall (P : Parsers C A R) (f : List Char) (target : Option (Expr C A R)) (args : List (Expr C A R)) :
    Option (Expr C A R) :=
  if f = "cidr".toList then
    match target, args with
    | none, [arg] =>
      match exprAsValue arg with
      | some (.string s) => (P.parseCidr s).map fun c => .inline (.object (.cidr c))
      | _ => none
    | _, _ => none
  else if f = "ip".toList then
    match target, args with
    | none, [arg] =>
      match exprAsValue arg with
      | some (.string s) => (P.parseIp s).map fun a => .inline (.object (.ip a))
      | _ => none
    | _, _ => none
  else if f = "matches".toList then
    match target, args with
    | some t, [arg] =>
      match exprAsValue arg with
      | some (.string r) =>
        (P.compileRegex r).map fun re =>
          .call "precompiled_matches".toList (some (.inline (.object (.precompiledRegex re)))) [t]
      | _ => none
    | _, _ => none
  else none

def defaultOptimizer (P : Parsers C A R) : Expr C A R → Option (Expr C A R)
  | .select operand field test => specializeMember operand field test
  | .call f target args => specializeCall P f target args
  | _ => none

def compileWithOptimizer (P : Parsers C A R) (e : Expr C A R) : Expr C A R :=
  optimize (defaultOptimizer P) (compile e)

def Context.insertAll (P : Parsers C A R) (ctx : Context C A R) : Context C A R where
  functions f :=
    if f = "json".toList then some (jsonParse P.serde)
    else if f = "jsonField".toList then some (jsonParseField P.serde)
    else if f = "cidr".toList then some (cidrFn P.parseCidr)
    else if f = "ip".toList then some (ipFn P.parseIp)
    else if f = "matches".toList then some (matchesFn P.compileRegex P.isMatch)
    else if f = "precompiled_matches".toList then some (precompiledMatches P.isMatch)
    else if f = "default".toList then some defaultFn
    else ctx.functions f
  qualified := ctx.qualified
  methods o f :=
    match o with
    | .precompiledRegex _ => none
    | o => ctx.methods o f

lemma registered_insertAll (P : Parsers C A R) (ctx : Context C A R) : Registered P (ctx.insertAll P) where
  json := rfl
  jsonField := rfl
  cidr := rfl
  ip := rfl
  regexMatches := rfl
  precompiledMatches := rfl
  default := rfl
  regexMethods _ _ := rfl

/-! ### The pass keeps what an expression resolves to -/

section Sound

variable (opt : Expr C A R → Option (Expr C A R)) (ctx : Context C A R) (vars : Resolver C A R)

/-- What the pass asks of a rewrite: identifiers are neither rewritten nor produced, since the
resolver reads the syntax of an identifier operand or target, and a rewritten node resolves as the
node did. -/
structure SoundRewrite : Prop where
  ident : ∀ n, opt (.ident n) = none
  not_ident : ∀ e e' n, opt e = some e' → e' ≠ .ident n
  sound : ∀ e e', opt e = some e' → resolve ctx vars e' = resolve ctx vars e

variable {opt ctx vars}

lemma SoundRewrite.resolve_getD (h : SoundRewrite opt ctx vars) (e : Expr C A R) :
    resolve ctx vars ((opt e).getD e) = resolve ctx vars e := by
  cases hopt : opt e with
  | none => rfl
  | some e' => exact h.sound e e' hopt

lemma SoundRewrite.getD_eq_ident (h : SoundRewrite opt ctx vars) (e : Expr C A R) (n : List Char) :
    (opt e).getD e = .ident n ↔ e = .ident n := by
  cases hopt : opt e with
  | none => rfl
  | some e' =>
    refine ⟨fun he => absurd he (h.not_ident e e' n hopt), ?_⟩
    rintro rfl
    rw [h.ident] at hopt
    cases hopt

lemma SoundRewrite.optimize_eq_ident (h : SoundRewrite opt ctx vars) (e : Expr C A R) (n : List Char) :
    optimize opt e = .ident n ↔ e = .ident n := by
  cases e with
  | list es =>
    rw [optimize]
    rw [h.getD_eq_ident]
    split <;> simp
  | _ => rw [optimize, h.getD_eq_ident] <;> simp

lemma directMember_congr {o o' : Expr C A R} (hid : ∀ n, o' = .ident n ↔ o = .ident n) (test : Bool)
    (field : List Char) : directMember vars test o' field = directMember vars test o field := by
  by_cases hi : ∃ n, o = .ident n
  · obtain ⟨n, rfl⟩ := hi
    rw [(hid n).2 rfl]
  · have hi' : ∀ n, o' ≠ .ident n := fun n h => hi ⟨n, (hid n).1 h⟩
    cases test <;> cases o <;> cases o' <;> simp_all [directMember]

lemma qualifiedFunction_congr {t t' : Expr C A R} (hid : ∀ n, t' = .ident n ↔ t = .ident n) (f : List Char) :
    qualifiedFunction ctx t' f = qualifiedFunction ctx t f := by
  by_cases hi : ∃ n, t = .ident n
  · obtain ⟨n, rfl⟩ := hi
    rw [(hid n).2 rfl]
  · have hi' : ∀ n, t' ≠ .ident n := fun n h => hi ⟨n, (hid n).1 h⟩
    cases t <;> cases t' <;> simp_all [qualifiedFunction]

lemma collect_resolveArgs_of_inlineValues :
    ∀ {es : List (Expr C A R)} {vs : List (Value C A R)}, inlineValues es = some vs →
      collect (resolveArgs ctx vars es) = .ok (.list vs)
  | [], _, h => by cases h; rfl
  | .literal v :: es, _, h | .inline v :: es, _, h => by
    obtain ⟨vs, hvs, rfl⟩ := Option.map_eq_some_iff.1 h
    rw [resolveArgs, resolve, collect, collect_resolveArgs_of_inlineValues hvs]
  | .ident _ :: _, _, h | .select _ _ _ :: _, _, h | .call _ _ _ :: _, _, h | .list _ :: _, _, h => by
    cases h

mutual

/-- The pass keeps what every expression resolves to, when each rewrite does: the induction follows
the expression, each node resolving as before from children that do. -/
theorem resolve_optimize (h : SoundRewrite opt ctx vars) :
    ∀ e : Expr C A R, resolve ctx vars (optimize opt e) = resolve ctx vars e
  | .literal v => by rw [optimize, h.resolve_getD]; rfl
  | .inline v => by rw [optimize, h.resolve_getD]
  | .ident n => by rw [optimize, h.resolve_getD]
  | .select o field test => by
    rw [optimize]
    rw [h.resolve_getD, resolve, resolve, directMember_congr (h.optimize_eq_ident o), resolve_optimize h o]
  | .call f none args => by
    rw [optimize]
    rw [h.resolve_getD, optimizeTarget, resolve, resolve, resolveArgs_optimizeList h args]
  | .call f (some t) args => by
    rw [optimize]
    rw [h.resolve_getD, optimizeTarget, resolve, resolve, qualifiedFunction_congr (h.optimize_eq_ident t),
      resolve_optimize h t, resolveArgs_optimizeList h args]
  | .list es => by
    rw [optimize]
    rw [h.resolve_getD]
    split
    · -- every element became a value: the inline list is what the literal resolves to
      rename_i vs hvs
      rw [resolve, resolve, ← resolveArgs_optimizeList h es, collect_resolveArgs_of_inlineValues hvs]
    · rw [resolve, resolve, resolveArgs_optimizeList h es]

theorem resolveArgs_optimizeList (h : SoundRewrite opt ctx vars) :
    ∀ es : List (Expr C A R), resolveArgs ctx vars (optimizeList opt es) = resolveArgs ctx vars es
  | [] => rfl
  | e :: es => by rw [optimizeList, resolveArgs, resolveArgs, resolve_optimize h e, resolveArgs_optimizeList h es]

end

theorem resolve_compile (e : Expr C A R) : resolve ctx vars (compile e) = resolve ctx vars e :=
  resolve_optimize ⟨fun _ => rfl, fun _ _ _ h => (by cases h), fun _ _ h => (by cases h)⟩ e

end Sound

/-! ### `jsonField` against `json(..).f` -/

section JsonField

variable {J : SerdeJson}

lemma deserializeMap_visitMap {s k : List Char} {raw : List (List Char × Json)} (hr : ReadsMap J s raw) :
    J.deserializeMap s (fun c => visitMap J k c none) = .ok (lookup k raw.reverse) := by
  obtain ⟨c, hb, he⟩ := hr
  obtain ⟨c', hvisit, hend⟩ := visitMap_entries (k := k) he none
  rw [deserializeMap_of_visit hb hvisit hend, Option.or_none]

lemma lookupKey_toEntries (k : List Char) :
    ∀ es : List (List Char × Json), lookupKey (.string k) (toEntries es : List (Key × Value C A R)) =
      (lookup k es).map toValue
  | [] => rfl
  | (k', j) :: es => by
    by_cases hk : k' = k
    · subst hk
      simp [lookupKey, lookup, toEntries]
    · have ih := lookupKey_toEntries k es
      simp only [lookupKey, lookup] at ih
      simp [lookupKey, lookup, toEntries, hk, ih]

lemma member_toValue_object (k : List Char) (es : List (List Char × Json)) :
    (toValue (.object es) : Value C A R).member k =
      match lookup k es with
      | some j => .ok (toValue j)
      | none => .error (.noSuchKey k) := by
  rw [toValue, Value.member, lookupKey_toEntries]
  cases lookup k es <;> rfl

lemma jsonParseField_of_readsMap {s k : List Char} {es raw : List (List Char × Json)} (hr : ReadsMap J s raw)
    (hes : ∀ k, lookup k es = lookup k raw.reverse) (this : Option (Value C A R)) :
    jsonParseField J this [.ok (.string s), .ok (.string k)] = (toValue (.object es) : Value C A R).member k := by
  rw [member_toValue_object, hes]
  simp only [jsonParseField, argValue, argString, List.getElem?_cons_succ, List.getElem?_cons_zero,
    deserializeMap_visitMap hr]
  cases lookup k raw.reverse <;> rfl

lemma jsonParseField_of_trailing (hagree : MapsAgree J) (htrail : RejectsTrailing J) (hbrace : MapStopsAtBrace J)
    {s t k : List Char} {es : List (List Char × Json)} (h : J.fromStr s = .ok (.object es))
    (ht : ∃ c ∈ t, isWhitespace c = false) (this : Option (Value C A R)) :
    jsonParse J this [.ok (.string (s ++ t))] = .error (.functionError "json".toList) ∧
    jsonParseField J this [.ok (.string (s ++ t)), .ok (.string k)] = (toValue (.object es) : Value C A R).member k := by
  obtain ⟨raw, hr, hes⟩ := hagree s es h
  obtain ⟨e, he⟩ := htrail s t es h ht
  exact ⟨by simp [jsonParse, argValue, he], jsonParseField_of_readsMap (hbrace s t raw hr) hes this⟩

lemma jsonParseField_of_nonObject (hnon : RejectsNonObject J) {s k : List Char} {j : Json} (h : J.fromStr s = .ok j)
    (hj : ∀ es, j ≠ .object es) (this : Option (Value C A R)) :
    jsonParse J this [.ok (.string s)] = .ok (toValue j) ∧
    (toValue j : Value C A R).member k = .error (.noSuchKey k) ∧
    jsonParseField J this [.ok (.string s), .ok (.string k)] = .error (.functionError "jsonField".toList) := by
  refine ⟨by simp [jsonParse, argValue, h], ?_, ?_⟩
  · cases j with
    | object es => exact absurd rfl (hj es)
    | number n => cases n <;> rfl
    | _ => rfl
  · obtain ⟨e, he⟩ := hnon s j h hj
    simp [jsonParseField, argValue, argString, deserializeMap_of_beginMap_error he]

end JsonField

/-! ### The rewrites one by one -/

section Rewrites

variable {P : Parsers C A R} {ctx : Context C A R} {vars : Resolver C A R}

lemma resolve_jsonSelect (hreg : Registered P ctx) (arg : Expr C A R) (field : List Char) :
    resolve ctx vars (.select (.call "json".toList none [arg]) field false) =
      match jsonParse P.serde none [resolve ctx vars arg] with
      | .error e => .error e
      | .ok v => v.member field := by
  rw [resolve, resolve, hreg.json]
  rfl

end Rewrites

/-! ### Where the optimizer changes the result -/

section Divergence

def jsonSelect (s f : List Char) : Expr C A R :=
  .select (.call "json".toList none [.literal (.string s)]) f false

def defaultOfField (s f : List Char) (d : Value C A R) : Expr C A R :=
  .call "default".toList none [jsonSelect s f, .literal d]

def matchesOn (v : Value C A R) (r : List Char) : Expr C A R :=
  .call "matches".toList (some (.literal v)) [.literal (.string r)]

variable (P : Parsers C A R)

lemma compileWithOptimizer_jsonSelect (s f : List Char) :
    compileWithOptimizer P (jsonSelect s f) = .call "jsonField".toList none [.inline (.string s), .inline (.string f)] :=
  rfl

lemma compileWithOptimizer_defaultOfField (s f : List Char) (d : Value C A R) :
    compileWithOptimizer P (defaultOfField s f d) =
      .call "default".toList none [.call "jsonField".toList none [.inline (.string s), .inline (.string f)], .inline d] :=
  rfl

lemma compileWithOptimizer_matchesOn {v : Value C A R} {r : List Char} {re : R} (hre : P.compileRegex r = some re) :
    compileWithOptimizer P (matchesOn v r) =
      .call "precompiled_matches".toList (some (.inline (.object (.precompiledRegex re)))) [.inline v] := by
  have hspec : specializeCall P "matches".toList (some (.inline v)) [.inline (.string r)] =
      (P.compileRegex r).map fun re =>
        .call "precompiled_matches".toList (some (.inline (.object (.precompiledRegex re)))) [.inline v] := rfl
  show (defaultOptimizer P (.call "matches".toList (some (.inline v)) [.inline (.string r)])).getD _ = _
  rw [defaultOptimizer, hspec, hre]
  rfl

/-- Three kinds of expression on which `DefaultOptimizer` changes the result, in every context with
celx's functions registered and for every serde_json reader with the laws named: an object followed
by text, which serde_json rejects and `jsonField` never reads; `default(json(s).f, d)` on a text that
is no object, where `json(s).f` is a missing key `default` recovers from and `jsonField` fails; and
`v.matches(r)` on a target that is no string, which matches the regex against itself while
`precompiled_matches` fails to read the target as a string. -/
theorem default_optimizer_changes_results (hagree : MapsAgree P.serde) (htrail : RejectsTrailing P.serde)
    (hbrace : MapStopsAtBrace P.serde) (hnon : RejectsNonObject P.serde) (ctx : Context C A R)
    (vars : Resolver C A R) :
    (∀ s t f es, P.serde.fromStr s = .ok (.object es) → (∃ c ∈ t, isWhitespace c = false) →
      resolve (ctx.insertAll P) vars (compile (jsonSelect (s ++ t) f)) = .error (.functionError "json".toList) ∧
      resolve (ctx.insertAll P) vars (compileWithOptimizer P (jsonSelect (s ++ t) f)) =
        (toValue (.object es) : Value C A R).member f) ∧
    (∀ s f j d, P.serde.fromStr s = .ok j → (∀ es, j ≠ .object es) →
      resolve (ctx.insertAll P) vars (compile (defaultOfField s f d)) = .ok d ∧
      resolve (ctx.insertAll P) vars (compileWithOptimizer P (defaultOfField s f d)) =
        .error (.functionError "jsonField".toList)) ∧
    (∀ v r re, (∀ s, v ≠ .string s) → (∀ o, v ≠ .object o) → P.compileRegex r = some re →
      resolve (ctx.insertAll P) vars (compile (matchesOn v r)) = .ok (.bool (P.isMatch re r)) ∧
      resolve (ctx.insertAll P) vars (compileWithOptimizer P (matchesOn v r)) = .error (.noSuchKey "todo".toList)) := by
  have hreg := registered_insertAll P ctx
  refine ⟨fun s t f es hs ht => ⟨?_, ?_⟩, fun s f j d hs hj => ⟨?_, ?_⟩, fun v r re hv ho hre => ⟨?_, ?_⟩⟩
  · -- serde_json's `end` finds the text after the object
    obtain ⟨hjson, -⟩ := jsonParseField_of_trailing hagree htrail hbrace (k := f) hs ht (none : Option (Value C A R))
    rw [resolve_compile, jsonSelect, resolve_jsonSelect hreg, resolve, hjson]
  · obtain ⟨-, hfield⟩ := jsonParseField_of_trailing hagree htrail hbrace (k := f) hs ht (none : Option (Value C A R))
    rw [compileWithOptimizer_jsonSelect, resolve_call_none hreg.jsonField, resolveArgs, resolveArgs, resolveArgs,
      resolve, resolve, hfield]
  · obtain ⟨hjson, hmember, -⟩ := jsonParseField_of_nonObject hnon (k := f) hs hj (none : Option (Value C A R))
    rw [resolve_compile, defaultOfField, resolve_call_none hreg.default, resolveArgs, jsonSelect,
      resolve_jsonSelect hreg, resolveArgs, resolve, hjson]
    dsimp only
    rw [hmember]
    rfl
  · obtain ⟨-, -, hfield⟩ := jsonParseField_of_nonObject hnon (k := f) hs hj (none : Option (Value C A R))
    rw [compileWithOptimizer_defaultOfField, resolve_call_none hreg.default, resolveArgs,
      resolve_call_none hreg.jsonField, resolveArgs, resolveArgs, resolveArgs, resolve, resolve, hfield]
    rfl
  · rw [resolve_compile, matchesOn, resolve_call_target rfl rfl (methodOf_eq_none ho), hreg.regexMatches]
    dsimp only
    rw [resolveArgs, resolveArgs, resolve, matchesFn_nonString hv hre]
  · rw [compileWithOptimizer_matchesOn P hre, resolve_call_target rfl rfl (hreg.methodOf_regex re _),
      hreg.precompiledMatches]
    dsimp only
    rw [resolveArgs, resolveArgs, resolve, precompiledMatches_nonString _ _ hv]

def objectText : List Char := ['{', '"', 'f', '"', ':', '1', '}']

def arrayText : List Char := ['[', '1', ']']

/-- A reader that knows two texts, `{"f":1}` and `[1]`, and reads the map of the first from any text
starting with it, as serde_json does on these. Its cursor holds the value after a key just read and
the entries still to read. -/
def tableSerde : SerdeJson where
  Cursor := Option Json × List (List Char × Json)
  Error := Unit
  fromStr s :=
    if s = objectText then .ok (.object [(['f'], .number (.posInt 1))])
    else if s = arrayText then .ok (.array [.number (.posInt 1)])
    else .error ()
  beginMap s := if objectText <+: s then .ok (none, [(['f'], .number (.posInt 1))]) else .error ()
  nextKey
    | (none, (k, v) :: rest) => .ok (some (k, (some v, rest)))
    | (none, []) => .ok none
    | (some _, _) => .error ()
  nextValue
    | (some v, rest) => .ok (v, (none, rest))
    | (none, _) => .error ()
  nextIgnored
    | (some _, rest) => .ok (none, rest)
    | (none, _) => .error ()
  endMap
    | (none, []) => .ok ()
    | _ => .error ()
  size c := 2 * c.2.length + (if c.1.isSome then 1 else 0)
  nextKey_lt := by
    rintro ⟨_ | _, _ | ⟨⟨k, v⟩, rest⟩⟩ k' c' h <;> simp at h
    obtain ⟨rfl, rfl⟩ := h
    simp
    omega
  nextValue_le := by
    rintro ⟨_ | _, rest⟩ v c' h <;> simp at h
    obtain ⟨rfl, rfl⟩ := h
    simp
  nextIgnored_le := by
    rintro ⟨_ | _, rest⟩ c' h <;> simp at h
    subst h
    simp

lemma tableSerde_fromStr_object {s : List Char} {es : List (List Char × Json)}
    (h : tableSerde.fromStr s = .ok (.object es)) : s = objectText ∧ es = [(['f'], .number (.posInt 1))] := by
  simp only [tableSerde] at h
  split_ifs at h with hobj
  · cases h
    exact ⟨hobj, rfl⟩
  · cases h

lemma mapsAgree_tableSerde : MapsAgree tableSerde := by
  intro s es h
  obtain ⟨rfl, rfl⟩ := tableSerde_fromStr_object h
  refine ⟨[(['f'], .number (.posInt 1))], ⟨(none, [(['f'], .number (.posInt 1))]), by simp [tableSerde], ?_⟩,
    fun _ => rfl⟩
  exact .cons rfl rfl rfl (.nil rfl rfl)

lemma rejectsTrailing_tableSerde : RejectsTrailing tableSerde := by
  rintro s t es h ⟨c, hc, -⟩
  obtain ⟨rfl, -⟩ := tableSerde_fromStr_object h
  -- the text is longer than either known one
  have hlen : 7 < (objectText ++ t).length := by
    simpa [objectText] using List.length_pos_of_mem hc
  refine ⟨(), ?_⟩
  simp only [tableSerde]
  rw [if_neg (fun h => by rw [h] at hlen; simp [objectText] at hlen),
    if_neg (fun h => by rw [h] at hlen; simp [arrayText] at hlen)]

lemma mapStopsAtBrace_tableSerde : MapStopsAtBrace tableSerde := by
  rintro s t entries ⟨c, hb, he⟩
  refine ⟨c, ?_, he⟩
  simp only [tableSerde] at hb ⊢
  split_ifs at hb with hp
  rw [if_pos (hp.trans (List.prefix_append s t))]
  exact hb

lemma rejectsNonObject_tableSerde : RejectsNonObject tableSerde := by
  intro s j h hj
  simp only [tableSerde] at h ⊢
  split_ifs at h with hobj harr
  · cases h
    exact absurd rfl (hj _)
  · subst harr
    exact ⟨(), if_neg (by decide)⟩

/-- A regex engine in which every pattern compiles and matches, no address parsers, and the reader
of the two texts. -/
def unitParsers : Parsers Unit Unit Unit := ⟨fun _ => none, fun _ => none, fun _ => some (), fun _ _ => true, tableSerde⟩

/-- `json('{"f":1} x').f`, `default(json('[1]').f, 7)` and `(1).matches('a')` over that engine. -/
theorem default_optimizer_changes_results_at_unit :
    MapsAgree tableSerde ∧ RejectsTrailing tableSerde ∧ MapStopsAtBrace tableSerde ∧ RejectsNonObject tableSerde ∧
    resolve (Context.insertAll unitParsers ⟨fun _ => none, fun _ _ => none, fun _ _ => none⟩) ⟨fun _ => none, fun _ _ => none⟩
      (compile (jsonSelect (objectText ++ [' ', 'x']) ['f'])) = .error (.functionError "json".toList) ∧
    resolve (Context.insertAll unitParsers ⟨fun _ => none, fun _ _ => none, fun _ _ => none⟩) ⟨fun _ => none, fun _ _ => none⟩
      (compileWithOptimizer unitParsers (jsonSelect (objectText ++ [' ', 'x']) ['f'])) = .ok (.uint 1) ∧
    resolve (Context.insertAll unitParsers ⟨fun _ => none, fun _ _ => none, fun _ _ => none⟩) ⟨fun _ => none, fun _ _ => none⟩
      (compile (defaultOfField arrayText ['f'] (.int 7))) = .ok (.int 7) ∧
    resolve (Context.insertAll unitParsers ⟨fun _ => none, fun _ _ => none, fun _ _ => none⟩) ⟨fun _ => none, fun _ _ => none⟩
      (compileWithOptimizer unitParsers (defaultOfField arrayText ['f'] (.int 7))) =
        .error (.functionError "jsonField".toList) ∧
    resolve (Context.insertAll unitParsers ⟨fun _ => none, fun _ _ => none, fun _ _ => none⟩) ⟨fun _ => none, fun _ _ => none⟩
      (compile (matchesOn (.int 1) ['a'])) = .ok (.bool true) ∧
    resolve (Context.insertAll unitParsers ⟨fun _ => none, fun _ _ => none, fun _ _ => none⟩) ⟨fun _ => none, fun _ _ => none⟩
      (compileWithOptimizer unitParsers (matchesOn (.int 1) ['a'])) = .error (.noSuchKey "todo".toList) := by
  obtain ⟨htrail, hdefault, hmatches⟩ := default_optimizer_changes_results unitParsers mapsAgree_tableSerde
    rejectsTrailing_tableSerde mapStopsAtBrace_tableSerde rejectsNonObject_tableSerde
    ⟨fun _ => none, fun _ _ => none, fun _ _ => none⟩ ⟨fun _ => none, fun _ _ => none⟩
  obtain ⟨hjson, hfield⟩ := htrail objectText [' ', 'x'] ['f'] _ rfl ⟨'x', by simp, rfl⟩
  obtain ⟨hdefault, hdefaultField⟩ := hdefault arrayText ['f'] _ (.int 7) rfl (fun _ h => by cases h)
  obtain ⟨hmatch, hprecompiled⟩ := hmatches (.int 1) ['a'] () (fun _ h => by cases h) (fun _ h => by cases h) rfl
  refine ⟨mapsAgree_tableSerde, rejectsTrailing_tableSerde, mapStopsAtBrace_tableSerde,
    rejectsNonObject_tableSerde, hjson, ?_, hdefault, hdefaultField, hmatch, hprecompiled⟩
  rw [hfield]
  rfl

end Divergence

end AgentGateway.Cel
