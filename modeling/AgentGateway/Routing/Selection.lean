import AgentGateway.Routing.RouteSetInvariant

/-! Route selection of `http/route.rs`; a `none` result is a panic. -/

namespace AgentGateway.Routing.Selection

open Library.BinarySearch AgentGateway.Routing.Types AgentGateway.Routing.RouteTable
open AgentGateway.Routing.RouteSetInvariant

/-- The request as routing sees it. `query` holds what `url::form_urlencoded::parse` yields for
the query string; `waypoint` is the `WaypointService` extension, by its service. -/
structure Uri where
  scheme : Option String
  authority : Option String
  host : Option String
  path : String
  pathAndQuery : Option String
  query : Option (List (String × String))

structure Request where
  method : String
  uri : Uri
  headers : List (String × HeaderValue)
  waypoint : Option NamespacedHostname

def getPseudoHeaderValue (pseudo : HeaderOrPseudo) (req : Request) : Option String :=
  match pseudo with
  | .method => some req.method
  | .scheme => req.uri.scheme
  | .authority =>
    req.uri.authority.orElse fun _ => ((req.headers.lookup "host").bind HeaderValue.toStr)
  | .path => req.uri.pathAndQuery.orElse fun _ => some req.uri.path
  | .status => none
  | .header _ => none

def requestHeaderMatches (name : HeaderOrPseudo) (value : HeaderValueMatch) (req : Request) : Bool :=
  match name with
  | .header n => (req.headers.filter fun kv => kv.1 == n).any fun kv => value.matches kv.2
  | _ => ((getPseudoHeaderValue name req).bind HeaderValue.tryFrom |>.map value.matches).getD false

def trimEndMatches (c : Char) (s : List Char) : List Char :=
  (s.reverse.dropWhile (· == c)).reverse

def stripPrefix (p s : List Char) : Option (List Char) :=
  if p.isPrefixOf s then some (s.drop p.length) else none

def pathMatches (requestPath : String) : PathMatch → Bool
  | .exact p => requestPath == p
  | .regex r => fullMatch r requestPath
  | .invalid => false
  | .pathPrefix p =>
    match stripPrefix (trimEndMatches '/' p.toList) (trimEndMatches '/' requestPath.toList) with
    | none => false
    | some suffix => suffix.isEmpty || suffix.head? == some '/'

def queryGet (query : List (String × String)) (name : String) : Option String :=
  (query.reverse.lookup name)

def queryMatches (query : List (String × String)) (q : QueryMatch) : Bool :=
  match queryGet query q.name with
  | none => false
  | some haveValue =>
    match q.value with
    | .exact want => haveValue == want
    | .regex want => fullMatch want haveValue
    | .invalid => false

def matchesRequest (m : RouteMatch) (request : Request) : Bool :=
  let requestPath :=
    if request.method == "CONNECT" && request.uri.path.isEmpty then "/" else request.uri.path
  pathMatches requestPath m.path &&
    (m.method.all fun method => request.method == method.method) &&
    m.headers.all (fun h => requestHeaderMatches h.name h.value request) &&
    m.query.all (queryMatches (request.uri.query.getD []))

end AgentGateway.Routing.Selection
