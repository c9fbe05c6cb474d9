import AgentGateway.Library.Json

/-! CEL evaluation (`Value::resolve`) with the celx functions the optimizer touches; a function
receives its resolved target and argument results, and the parsers are parameters. -/

namespace AgentGateway.Cel

open Library.Serde Library.Serde.SerdeJson

inductive Key where
  | int (i : Int)
  | uint (n : Nat)
  | bool (b : Bool)
  | string (s : List Char)
  deriving DecidableEq

inductive Opaque (C A R : Type) where
  | cidr (c : C)
  | ip (a : A)
  | precompiledRegex (r : R)

inductive Value (C A R : Type) where
  | null
  | bool (b : Bool)
  | int (i : Int)
  | uint (n : Nat)
  | float (lexeme : List Char)
  | string (s : List Char)
  | list (xs : List (Value C A R))
  | map (entries : List (Key × Value C A R))
  | object (o : Opaque C A R)

inductive ExecutionError where
  | invalidArgumentCount (expected actual : Nat)
  | unexpectedType (got want : String)
  | noSuchKey (name : List Char)
  | undeclaredReference (name : List Char)
  | missingArgumentOrTarget
  | functionError (function : List Char)

/-- An expression after parsing: `Literal` and `Inline` values, identifiers, field selections
(`test` for `has`), calls with an optional target, and list literals. -/
inductive Expr (C A R : Type) where
  | literal (v : Value C A R)
  | inline (v : Value C A R)
  | ident (name : List Char)
  | select (operand : Expr C A R) (field : List Char) (test : Bool)
  | call (funcName : List Char) (target : Option (Expr C A R)) (args : List (Expr C A R))
  | list (elements : List (Expr C A R))

variable {C A R : Type}

abbrev Result (C A R : Type) := Except ExecutionError (Value C A R)

abbrev Function (C A R : Type) := Option (Value C A R) → List (Result C A R) → Result C A R

structure Context (C A R : Type) where
  functions : List Char → Option (Function C A R)
  qualified : List Char → List Char → Option (Function C A R)
  /-- `Opaque::call_function`: the methods of an opaque value. -/
  methods : Opaque C A R → List Char → Option (Function C A R)

structure Resolver (C A R : Type) where
  resolve : List Char → Option (Value C A R)
  resolveMember : List Char → List Char → Option (Value C A R)

def Value.typeName : Value C A R → String
  | .null => "null"
  | .bool _ => "bool"
  | .int _ => "int"
  | .uint _ => "uint"
  | .float _ => "float"
  | .string _ => "string"
  | .list _ => "list"
  | .map _ => "map"
  | .object _ => "object"

def lookupKey (k : Key) (es : List (Key × Value C A R)) : Option (Value C A R) :=
  (es.find? (·.1 = k)).map (·.2)

def Value.member (v : Value C A R) (name : List Char) : Result C A R :=
  match v with
  | .map es =>
    match lookupKey (.string name) es with
    | some c => .ok c
    | none => .error (.noSuchKey name)
  | _ => .error (.noSuchKey name)

def Value.hasField (v : Value C A R) (name : List Char) : Bool :=
  match v with
  | .map es => (lookupKey (.string name) es).isSome
  | _ => false

def collect : List (Result C A R) → Result C A R
  | [] => .ok (.list [])
  | .error e :: _ => .error e
  | .ok v :: rs =>
    match collect rs with
    | .ok (.list vs) => .ok (.list (v :: vs))
    | r => r

def directMember (vars : Resolver C A R) (test : Bool) (operand : Expr C A R) (field : List Char) :
    Option (Value C A R) :=
  match test, operand with
  | false, .ident name => vars.resolveMember name field
  | _, _ => none

def qualifiedFunction (ctx : Context C A R) (target : Expr C A R) (f : List Char) : Option (Function C A R) :=
  match target with
  | .ident pre => ctx.qualified pre f
  | _ => none

def methodOf (ctx : Context C A R) (tv : Value C A R) (f : List Char) : Option (Function C A R) :=
  match tv with
  | .object o => ctx.methods o f
  | _ => none

mutual

/-- `Value::resolve`. A call on a target tries a function qualified by an identifier target, then
resolves the target and tries its own methods when it is an opaque value, then the registered
function, which sees the target. -/
def resolve (ctx : Context C A R) (vars : Resolver C A R) : Expr C A R → Result C A R
  | .literal v => .ok v
  | .inline v => .ok v
  | .ident name =>
    match vars.resolve name with
    | some v => .ok v
    | none => .error (.undeclaredReference name)
  | .select operand field test =>
    match directMember vars test operand field with
    | some v => .ok v
    | none =>
      match resolve ctx vars operand with
      | .error e => .error e
      | .ok left => if test then .ok (.bool (left.hasField field)) else left.member field
  | .call f none args =>
    match ctx.functions f with
    | some fn => fn none (resolveArgs ctx vars args)
    | none => .error (.undeclaredReference f)
  | .call f (some t) args =>
    match qualifiedFunction ctx t f with
    | some fn => fn none (resolveArgs ctx vars args)
    | none =>
      match resolve ctx vars t with
      | .error e => .error e
      | .ok tv =>
        match methodOf ctx tv f with
        | some fn => fn none (resolveArgs ctx vars args)
        | none =>
          match ctx.functions f with
          | some fn => fn (some tv) (resolveArgs ctx vars args)
          | none => .error (.undeclaredReference f)
  | .list elements => collect (resolveArgs ctx vars elements)

def resolveArgs (ctx : Context C A R) (vars : Resolver C A R) : List (Expr C A R) → List (Result C A R)
  | [] => []
  | e :: es => resolve ctx vars e :: resolveArgs ctx vars es

end

/-! ### Reading arguments -/

def argValue (args : List (Result C A R)) (i : Nat) : Result C A R :=
  match args[i]? with
  | some r => r
  | none => .error (.invalidArgumentCount (i + 1) args.length)

def argString (args : List (Result C A R)) (i : Nat) : Except ExecutionError (List Char) :=
  match argValue args i with
  | .error e => .error e
  | .ok (.string s) => .ok s
  | .ok v => .error (.unexpectedType v.typeName "StringValue")

def argStr (args : List (Result C A R)) (i : Nat) : Except ExecutionError (List Char) :=
  match argValue args i with
  | .error e => .error e
  | .ok (.string s) => .ok s
  | .ok _ => .error (.noSuchKey "todo".toList)

def thisOrArgString (this : Option (Value C A R)) (args : List (Result C A R)) : Except ExecutionError (List Char) :=
  match this with
  | some (.string s) => .ok s
  | _ => argString args 0

/-! ### The functions -/

mutual

def toValue : Json → Value C A R
  | .null => .null
  | .bool b => .bool b
  | .number (.posInt n) => .uint n
  | .number (.negInt i) => .int i
  | .number (.float lexeme) => .float lexeme
  | .string s => .string s
  | .array xs => .list (toValues xs)
  | .object es => .map (toEntries es)

def toValues : List Json → List (Value C A R)
  | [] => []
  | x :: xs => toValue x :: toValues xs

def toEntries : List (List Char × Json) → List (Key × Value C A R)
  | [] => []
  | (k, v) :: es => (.string k, toValue v) :: toEntries es

end

def jsonParse (J : SerdeJson) : Function C A R := fun _ args =>
  match argValue args 0 with
  | .error e => .error e
  | .ok (.string s) =>
    match J.fromStr s with
    | .ok j => .ok (toValue j)
    | .error _ => .error (.functionError "json".toList)
  | .ok _ => .error (.functionError "json".toList)

-- the linter does not see the uses of `hk`, `hv` and `hi` in the termination proof
set_option linter.unusedVariables false in
/-- `json_field::FieldExtractor::visit_map`: the value of the last entry under `k`, every other value
skipped, and where the `MapAccess` stopped. -/
def visitMap (J : SerdeJson) (k : List Char) (c : J.Cursor) (val : Option Json) :
    Except J.Error (Option Json × J.Cursor) :=
  match hk : J.nextKey c with
  | .error e => .error e
  | .ok none => .ok (val, c)
  | .ok (some (key, c')) =>
    if key = k then
      match hv : J.nextValue c' with
      | .error e => .error e
      | .ok (v, c'') => visitMap J k c'' (some v)
    else
      match hi : J.nextIgnored c' with
      | .error e => .error e
      | .ok c'' => visitMap J k c'' val
termination_by J.size c
decreasing_by
  · exact lt_of_le_of_lt (J.nextValue_le _ _ _ hv) (J.nextKey_lt _ _ _ hk)
  · exact lt_of_le_of_lt (J.nextIgnored_le _ _ hi) (J.nextKey_lt _ _ _ hk)

def jsonParseField (J : SerdeJson) : Function C A R := fun _ args =>
  match argValue args 0 with
  | .error e => .error e
  | .ok v =>
    match argString args 1 with
    | .error e => .error e
    | .ok k =>
      match v with
      | .string s =>
        match J.deserializeMap s (fun c => visitMap J k c none) with
        | .error _ => .error (.functionError "jsonField".toList)
        | .ok (some j) => .ok (toValue j)
        | .ok none => .error (.noSuchKey k)
      | _ => .error (.functionError "jsonField".toList)

section VisitMap

variable {J : SerdeJson} {k : List Char} {c : J.Cursor} {val : Option Json}

lemma visitMap_of_nextKey_none (h : J.nextKey c = .ok none) : visitMap J k c val = .ok (val, c) := by
  rw [visitMap]
  split <;> simp_all

lemma visitMap_of_nextValue {c' c'' : J.Cursor} {v : Json} (hk : J.nextKey c = .ok (some (k, c')))
    (hv : J.nextValue c' = .ok (v, c'')) : visitMap J k c val = visitMap J k c'' (some v) := by
  rw [visitMap]
  split
  · simp_all
  · simp_all
  · rename_i key c1 hk'
    rw [hk] at hk'
    cases hk'
    rw [if_pos rfl]
    split
    · simp_all
    · rename_i v' c2 hv'
      rw [hv] at hv'
      cases hv'
      rfl

lemma visitMap_of_nextIgnored {key : List Char} {c' c'' : J.Cursor} (hk : J.nextKey c = .ok (some (key, c')))
    (hne : key ≠ k) (hi : J.nextIgnored c' = .ok c'') : visitMap J k c val = visitMap J k c'' val := by
  rw [visitMap]
  split
  · simp_all
  · simp_all
  · rename_i key' c1 hk'
    rw [hk] at hk'
    cases hk'
    rw [if_neg hne]
    split
    · simp_all
    · rename_i c2 hi'
      rw [hi] at hi'
      cases hi'
      rfl

lemma visitMap_entries {raw : List (List Char × Json)} (hr : Entries J c raw) (val : Option Json) :
    ∃ c', visitMap J k c val = .ok ((lookup k raw.reverse).or val, c') ∧ J.endMap c' = .ok () := by
  induction hr generalizing val with
  | nil hk he => exact ⟨_, visitMap_of_nextKey_none hk, he⟩
  | @cons c c' c'' key v rest hk hv hi _ ih =>
    rw [lookup_reverse_cons]
    by_cases hkey : key = k
    · subst hkey
      obtain ⟨c₁, hvisit, hend⟩ := ih (some v)
      refine ⟨c₁, ?_, hend⟩
      rw [visitMap_of_nextValue hk hv, hvisit, if_pos rfl, Option.or_assoc]
      rfl
    · obtain ⟨c₁, hvisit, hend⟩ := ih val
      refine ⟨c₁, ?_, hend⟩
      rw [visitMap_of_nextIgnored hk hkey hi, hvisit, if_neg hkey, Option.or_none]

end VisitMap

def wrapnew (name : List Char) (parse : List Char → Option (Opaque C A R)) : Function C A R := fun _ args =>
  match argString args 0 with
  | .error e => .error e
  | .ok s =>
    match parse s with
    | some o => .ok (.object o)
    | none => .error (.functionError name)

def cidrFn (parseCidr : List Char → Option C) : Function C A R :=
  wrapnew "cidr".toList fun s => (parseCidr s).map .cidr

def ipFn (parseIp : List Char → Option A) : Function C A R :=
  wrapnew "ip".toList fun s => (parseIp s).map .ip

/-- cel's `matches`: the string is the target when it is one, else the first argument, and the
regex is the first argument. -/
def matchesFn (compile : List Char → Option R) (isMatch : R → List Char → Bool) : Function C A R :=
  fun this args =>
    match thisOrArgString this args with
    | .error e => .error e
    | .ok str =>
      match argString args 0 with
      | .error e => .error e
      | .ok regex =>
        match compile regex with
        | some re => .ok (.bool (isMatch re str))
        | none => .error (.functionError "matches".toList)

def precompiledMatches (isMatch : R → List Char → Bool) : Function C A R := fun this args =>
  match this with
  | none => .error .missingArgumentOrTarget
  | some t =>
    match argStr args 0 with
    | .error e => .error e
    | .ok str =>
      match t with
      | .object (.precompiledRegex re) => .ok (.bool (isMatch re str))
      | .object (.cidr _) => .error (.unexpectedType "cidr" "precompiled_regex")
      | .object (.ip _) => .error (.unexpectedType "ip" "precompiled_regex")
      | v => .error (.unexpectedType v.typeName "precompiled_regex")

lemma matchesFn_nonString {compile : List Char → Option R} {isMatch : R → List Char → Bool} {r : List Char} {re : R}
    {v : Value C A R} (hv : ∀ s, v ≠ .string s) (hre : compile r = some re) :
    matchesFn compile isMatch (some v) [.ok (.string r)] = .ok (.bool (isMatch re r)) := by
  have hthis : thisOrArgString (some v) [.ok (.string r)] = .ok r := by
    cases v with
    | string s => exact absurd rfl (hv s)
    | _ => rfl
  simp [matchesFn, hthis, argString, argValue, hre]

lemma precompiledMatches_nonString (isMatch : R → List Char → Bool) (re : R) {v : Value C A R}
    (hv : ∀ s, v ≠ .string s) :
    precompiledMatches isMatch (some (.object (.precompiledRegex re))) [.ok v] = .error (.noSuchKey "todo".toList) := by
  cases v with
  | string s => exact absurd rfl (hv s)
  | _ => rfl

/-- celx's `default`: the first argument unless it is null, a missing key or an undeclared
reference, else the second. -/
def defaultFn : Function C A R := fun _ args =>
  match argValue args 0 with
  | .ok .null => argValue args 1
  | .ok v => .ok v
  | .error (.noSuchKey _) => argValue args 1
  | .error (.undeclaredReference _) => argValue args 1
  | .error e => .error e

structure Parsers (C A R : Type) where
  parseCidr : List Char → Option C
  parseIp : List Char → Option A
  compileRegex : List Char → Option R
  isMatch : R → List Char → Bool
  serde : SerdeJson

structure Registered (P : Parsers C A R) (ctx : Context C A R) : Prop where
  json : ctx.functions "json".toList = some (jsonParse P.serde)
  jsonField : ctx.functions "jsonField".toList = some (jsonParseField P.serde)
  cidr : ctx.functions "cidr".toList = some (cidrFn P.parseCidr)
  ip : ctx.functions "ip".toList = some (ipFn P.parseIp)
  regexMatches : ctx.functions "matches".toList = some (matchesFn P.compileRegex P.isMatch)
  precompiledMatches : ctx.functions "precompiled_matches".toList = some (precompiledMatches P.isMatch)
  default : ctx.functions "default".toList = some defaultFn
  /-- `PrecompileRegex` has no methods of its own. -/
  regexMethods : ∀ re f, ctx.methods (.precompiledRegex re) f = none

/-! ### Calls on a target -/

section Calls

variable {ctx : Context C A R} {vars : Resolver C A R} {f : List Char} {t : Expr C A R} {args : List (Expr C A R)}

lemma resolve_call_none {fn : Function C A R} (hfn : ctx.functions f = some fn) :
    resolve ctx vars (.call f none args) = fn none (resolveArgs ctx vars args) := by
  rw [resolve, hfn]

lemma resolve_call_target {tv : Value C A R} (hq : qualifiedFunction ctx t f = none)
    (ht : resolve ctx vars t = .ok tv) (hm : methodOf ctx tv f = none) :
    resolve ctx vars (.call f (some t) args) =
      match ctx.functions f with
      | some fn => fn (some tv) (resolveArgs ctx vars args)
      | none => .error (.undeclaredReference f) := by
  rw [resolve, hq, ht]
  dsimp only
  rw [hm]

lemma methodOf_eq_none {tv : Value C A R} (h : ∀ o, tv ≠ .object o) : methodOf ctx tv f = none := by
  cases tv with
  | object o => exact absurd rfl (h o)
  | _ => rfl

end Calls

lemma Registered.methodOf_regex {P : Parsers C A R} {ctx : Context C A R} (hreg : Registered P ctx) (re : R)
    (f : List Char) : methodOf ctx (.object (.precompiledRegex re)) f = none :=
  hreg.regexMethods re f

end AgentGateway.Cel
