import Mathlib.Data.List.AList

/-! Routes, their matches and hostname keys (`types/agent.rs`). -/

namespace AgentGateway.Routing.Types

/-- `Strng`: interned strings compare as their UTF-8 bytes, which is the order of their
code points. -/
abbrev Strng := String

abbrev RouteKey := Strng

structure Regex where
  asStr : String
  find : String → Option (ℕ × ℕ)

inductive HostnameMatch where
  | exact (host : Strng)
  | wildcard (suffix : Strng)
  | none
  deriving DecidableEq, Repr

def HostnameMatch.fromStrng (s : Strng) : HostnameMatch :=
  match s.toList with
  | '*' :: '.' :: rest => .wildcard (String.ofList rest)
  | _ => .exact s

inductive PathMatch where
  | exact (p : Strng)
  | pathPrefix (p : Strng)
  | regex (r : Regex)
  | invalid

instance : Inhabited PathMatch := ⟨.invalid⟩

structure MethodMatch where
  method : Strng

inductive HeaderOrPseudo where
  | header (name : String)
  | method
  | scheme
  | authority
  | path
  | status
  deriving DecidableEq, Repr

structure HeaderValue where
  bytes : List UInt8
  deriving DecidableEq, Repr

inductive HeaderValueMatch where
  | exact (want : HeaderValue)
  | regex (want : Regex)
  | invalid

structure HeaderMatch where
  name : HeaderOrPseudo
  value : HeaderValueMatch

def HeaderValue.ofString (s : String) : HeaderValue := ⟨s.toUTF8.toList⟩

def HeaderValue.toStr (v : HeaderValue) : Option String :=
  if v.bytes.all fun b => b == 9 || (32 ≤ b && b < 127) then
    some (String.ofList (v.bytes.map fun b => Char.ofNat b.toNat))
  else none

def HeaderValue.tryFrom (s : String) : Option HeaderValue :=
  let v := HeaderValue.ofString s
  if v.bytes.all fun b => b == 9 || (32 ≤ b && b != 127) then some v else none

def fullMatch (r : Regex) (s : String) : Bool :=
  match r.find s with
  | some (start, stop) => start == 0 && stop == s.utf8ByteSize
  | none => false

def HeaderValueMatch.matches (m : HeaderValueMatch) (haveValue : HeaderValue) : Bool :=
  match m with
  | .exact want => haveValue == want
  | .regex want => (haveValue.toStr.map (fullMatch want)).getD false
  | .invalid => false

inductive QueryValueMatch where
  | exact (want : Strng)
  | regex (want : Regex)
  | invalid

structure QueryMatch where
  name : Strng
  value : QueryValueMatch

structure RouteMatch where
  headers : List HeaderMatch
  path : PathMatch
  method : Option MethodMatch
  query : List QueryMatch

instance : Inhabited RouteMatch := ⟨⟨[], default, none, []⟩⟩

def defaultRouteMatchPath : PathMatch := .pathPrefix "/"

structure NamespacedHostname where
  «namespace» : Strng
  hostname : Strng
  deriving DecidableEq, Repr

/-- The fields of `Route` that routing reads; names, backends, the LLM router and inline
policies are carried elsewhere. -/
structure Route where
  key : RouteKey
  serviceKey : Option NamespacedHostname
  servicePort : ℕ
  hostnames : List Strng
  «matches» : List RouteMatch

end AgentGateway.Routing.Types
