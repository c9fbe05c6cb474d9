import AgentGateway.Routing.Selection
import AgentGateway.Library.Text

/-! Prefix path rewriting of `http/filters.rs` (`rewrite_path`) against the `PathPrefix` match
of `matches_request`. -/

namespace AgentGateway.Http.Filters

open AgentGateway.Routing.Types AgentGateway.Routing.Selection Library.Text

inductive PathRedirect where
  | full (p : String)
  | replacePrefix (p : String)

inductive Error where
  | invalidUri
  | invalidHttpUri
  | invalidFilterConfiguration (msg : String)
  deriving DecidableEq

def rawQuery (u : Uri) : Option (List Char) :=
  u.pathAndQuery.bind fun pq => (splitOnce '?' pq.toList).map Prod.snd

def withQuery (q : Option (List Char)) (newPath : List Char) : List Char :=
  match q with
  | some q => newPath ++ '?' :: q
  | none => newPath

def tryIntoPathAndQuery (accepts : List Char → Bool) (s : List Char) : Except Error (List Char) :=
  if accepts s then .ok s else .error .invalidHttpUri

def stripSegmentPrefix (path pfx : List Char) : Option (List Char) :=
  match stripPrefix pfx path with
  | none => none
  | some rest => if pfx.isEmpty || rest.isEmpty || rest.head? == some '/' then some rest else none

/-- How `rewrite_path` puts the replacement before the rest of the path: a slash added when
neither has one there, one dropped when both have, and `/` for an empty result. -/
def joinRest (r rest : List Char) : List Char :=
  let newPath := if r.getLast? != some '/' && !rest.isEmpty && rest.head? != some '/' then r ++ ['/'] else r
  let newPath := if newPath.getLast? == some '/' && rest.head? == some '/' then newPath.dropLast else newPath
  let newPath := newPath ++ rest
  if newPath.isEmpty then ['/'] else newPath

def rewritePath (accepts : List Char → Bool) (rewrite : Option PathRedirect) (pathMatch : PathMatch)
    (orig : Uri) : Except Error (List Char) :=
  match rewrite with
  | none =>
    match orig.pathAndQuery with
    | some pq => .ok pq.toList
    | none => .error .invalidUri
  | some (.full r) =>
    tryIntoPathAndQuery accepts (withQuery (rawQuery orig) (if r.isEmpty then ['/'] else r.toList))
  | some (.replacePrefix r) =>
    match pathMatch with
    | .pathPrefix matchPfx =>
      match stripSegmentPrefix orig.path.toList (trimEndMatches '/' matchPfx.toList) with
      | none => .error .invalidUri
      | some rest => tryIntoPathAndQuery accepts (withQuery (rawQuery orig) (joinRest r.toList rest))
    | _ => .error (.invalidFilterConfiguration "prefix redirect requires prefix match")

def pathMatchOf (ext : Option PathMatch) : PathMatch := ext.getD (.pathPrefix "/")

/-- The replacement and the rest of the path with exactly one slash between them, the replacement
alone when nothing is left, and `/` when both are empty. -/
def slashJoin (r rest : List Char) : List Char :=
  if rest = [] then (if r = [] then ['/'] else r)
  else trimEndMatches '/' r ++ '/' :: rest.dropWhile (· == '/')

/-! ### The prefix a matched path starts with -/

def SegmentRest (rest : List Char) : Prop := rest = [] ∨ rest.head? = some '/'

lemma stripPrefix_eq_some_iff {p s t : List Char} : stripPrefix p s = some t ↔ s = p ++ t := by
  unfold stripPrefix
  split_ifs with h
  · obtain ⟨u, rfl⟩ := List.isPrefixOf_iff_prefix.1 h
    simp
  · simp only [false_iff]
    rintro rfl
    exact h (List.isPrefixOf_iff_prefix.2 (List.prefix_append p t))

lemma trimEndMatches_append_rtakeWhile (c : Char) (s : List Char) :
    trimEndMatches c s ++ s.rtakeWhile (· == c) = s :=
  List.rdropWhile_append_rtakeWhile

lemma rest_of_pathMatches {path p : String} (h : pathMatches path (.pathPrefix p) = true) :
    ∃ rest, path.toList = trimEndMatches '/' p.toList ++ rest ∧ SegmentRest rest := by
  rw [pathMatches] at h
  split at h
  · cases h
  · rename_i suffix hs
    have htrim := stripPrefix_eq_some_iff.1 hs
    refine ⟨suffix ++ path.toList.rtakeWhile (· == '/'), ?_, ?_⟩
    · rw [← List.append_assoc, ← htrim, trimEndMatches_append_rtakeWhile]
    · rcases suffix with _ | ⟨c, t⟩
      · exact rtakeWhile_beq_eq_nil_or_head '/' _
      · right
        simpa using h

lemma pathMatches_connect (p : String) : pathMatches "/" (.pathPrefix p) = pathMatches "" (.pathPrefix p) := by
  rw [pathMatches, pathMatches]
  rfl

lemma rest_of_matchesRequest {m : RouteMatch} {p : String} (hm : m.path = .pathPrefix p) {request : Routing.Selection.Request}
    (h : matchesRequest m request = true) :
    ∃ rest, request.uri.path.toList = trimEndMatches '/' p.toList ++ rest ∧ SegmentRest rest := by
  simp only [matchesRequest, Bool.and_eq_true] at h
  have hpath := h.1.1.1
  rw [hm] at hpath
  split_ifs at hpath with hc
  · have hempty : request.uri.path = "" := by simp at hc; exact hc.2
    rw [hempty]
    rw [pathMatches_connect] at hpath
    exact rest_of_pathMatches hpath
  · exact rest_of_pathMatches hpath

/-! ### The rewritten path -/

lemma stripSegmentPrefix_of_segmentRest {p rest : List Char} (hrest : SegmentRest rest) :
    stripSegmentPrefix (p ++ rest) p = some rest := by
  rw [stripSegmentPrefix, stripPrefix_eq_some_iff.2 rfl]
  rcases hrest with rfl | hhead
  · simp
  · simp [hhead]

lemma tryIntoPathAndQuery_ne_invalidUri (accepts : List Char → Bool) (s : List Char) :
    tryIntoPathAndQuery accepts s ≠ .error .invalidUri := by
  unfold tryIntoPathAndQuery
  split_ifs <;> simp

lemma rewritePath_of_segmentRest (accepts : List Char → Bool) (r : String) {p : String} {orig : Uri}
    {rest : List Char} (hpath : orig.path.toList = trimEndMatches '/' p.toList ++ rest) (hrest : SegmentRest rest) :
    rewritePath accepts (some (.replacePrefix r)) (.pathPrefix p) orig =
      tryIntoPathAndQuery accepts (withQuery (rawQuery orig) (joinRest r.toList rest)) := by
  rw [rewritePath, hpath, stripSegmentPrefix_of_segmentRest hrest]

lemma joinRest_eq_slashJoin {r rest : List Char} (hrest : SegmentRest rest) (hr : ¬ ['/', '/'] <:+ r)
    (hd : ¬ ['/', '/'] <+: rest) : joinRest r rest = slashJoin r rest := by
  rcases hrest with rfl | hhead
  · by_cases hnil : r = [] <;> simp [joinRest, slashJoin, hnil]
  · obtain ⟨t, rfl⟩ : ∃ t, rest = '/' :: t := by
      cases rest with
      | nil => cases hhead
      | cons c t => exact ⟨t, by simpa using hhead⟩
    -- the rest has one leading slash, the replacement at most one trailing slash
    have ht : t.dropWhile (· == '/') = t := by
      cases t with
      | nil => rfl
      | cons c t' =>
        have hc : c ≠ '/' := by
          rintro rfl
          exact hd ⟨t', rfl⟩
        simp [hc]
    have htrim : trimEndMatches '/' r = if r.getLast? = some '/' then r.dropLast else r :=
      rdropWhile_beq_of_not_suffix hr
    simp only [joinRest, slashJoin, htrim, List.dropWhile_cons, ht]
    split_ifs <;> simp_all

/-- A request `PathPrefix(p)` matches is rewritten without `InvalidURI`: its path is the trimmed
prefix followed by a new segment or nothing, and the rewritten path is the replacement joined to
that rest with exactly one slash, with the query kept, whenever the replacement does not end with
two slashes and the rest does not start with two. -/
theorem prefix_rewrite_agrees_with_prefix_match (accepts : List Char → Bool) (m : RouteMatch) {p : String}
    (hm : m.path = .pathPrefix p) (request : Routing.Selection.Request) (hmatch : matchesRequest m request = true) (r : String) :
    rewritePath accepts (some (.replacePrefix r)) m.path request.uri ≠ .error .invalidUri ∧
    ∃ rest, request.uri.path.toList = trimEndMatches '/' p.toList ++ rest ∧ SegmentRest rest ∧
      (¬ ['/', '/'] <:+ r.toList → ¬ ['/', '/'] <+: rest →
        rewritePath accepts (some (.replacePrefix r)) m.path request.uri =
          tryIntoPathAndQuery accepts (withQuery (rawQuery request.uri) (slashJoin r.toList rest))) := by
  obtain ⟨rest, hpath, hrest⟩ := rest_of_matchesRequest hm hmatch
  have hrw := rewritePath_of_segmentRest accepts r hpath hrest
  rw [← hm] at hrw
  refine ⟨hrw ▸ tryIntoPathAndQuery_ne_invalidUri accepts _, rest, hpath, hrest, fun hr hd => ?_⟩
  rw [hrw, joinRest_eq_slashJoin hrest hr hd]

def usersRequest : Routing.Selection.Request :=
  ⟨"GET", ⟨some "http", some "test.com", some "test.com", "/api/users", some "/api/users?page=1", none⟩, [], none⟩

theorem prefix_rewrite_agrees_with_prefix_match_users :
    matchesRequest ⟨[], .pathPrefix "/api", none, []⟩ usersRequest = true ∧
    rewritePath (fun _ => true) (some (.replacePrefix "/v2")) (.pathPrefix "/api") usersRequest.uri =
      .ok "/v2/users?page=1".toList := by
  have hmatch : matchesRequest ⟨[], .pathPrefix "/api", none, []⟩ usersRequest = true := by decide
  obtain ⟨-, rest, hpath, -, h⟩ := prefix_rewrite_agrees_with_prefix_match (fun _ => true)
    ⟨[], .pathPrefix "/api", none, []⟩ rfl usersRequest hmatch "/v2"
  have hrest : rest = "/users".toList := by
    have hsplit : usersRequest.uri.path.toList = trimEndMatches '/' "/api".toList ++ "/users".toList := by decide
    exact List.append_cancel_left (hpath.symm.trans hsplit)
  subst hrest
  refine ⟨hmatch, ?_⟩
  rw [h (by decide) (by decide)]
  decide

def doubleSlashRequest : Routing.Selection.Request :=
  ⟨"GET", ⟨some "http", some "test.com", some "test.com", "/api//users", some "/api//users", none⟩, [], none⟩

/-- The route matches, and the rest `//users` keeps both of its slashes at the junction, where
the join with one slash gives `/v1/users`. -/
theorem prefix_rewrite_keeps_double_slash :
    matchesRequest ⟨[], .pathPrefix "/api", none, []⟩ doubleSlashRequest = true ∧
    rewritePath (fun _ => true) (some (.replacePrefix "/v1")) (.pathPrefix "/api") doubleSlashRequest.uri =
      .ok "/v1//users".toList ∧
    slashJoin "/v1".toList "//users".toList = "/v1/users".toList :=
  ⟨by decide, by decide, by decide⟩

end AgentGateway.Http.Filters
