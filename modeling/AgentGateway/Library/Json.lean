import Mathlib

/-! serde_json's `Value`, and its reader as a parameter with the laws a caller rests on. -/

namespace Library.Serde

inductive Number where
  | posInt (n : Nat)
  | negInt (i : Int)
  | float (lexeme : List Char)
  deriving DecidableEq

inductive Json where
  | null
  | bool (b : Bool)
  | number (n : Number)
  | string (s : List Char)
  | array (xs : List Json)
  | object (entries : List (List Char × Json))

def isWhitespace (c : Char) : Bool := c == ' ' || c == '\n' || c == '\t' || c == '\r'

def lookup (k : List Char) (es : List (List Char × Json)) : Option Json := (es.find? (·.1 = k)).map (·.2)

lemma lookup_append (k : List Char) (xs ys : List (List Char × Json)) :
    lookup k (xs ++ ys) = (lookup k xs).or (lookup k ys) := by
  simp only [lookup, List.find?_append]
  cases xs.find? (·.1 = k) <;> rfl

lemma lookup_reverse_cons (k key : List Char) (v : Json) (es : List (List Char × Json)) :
    lookup k ((key, v) :: es).reverse = (lookup k es.reverse).or (if key = k then some v else none) := by
  rw [List.reverse_cons, lookup_append]
  by_cases hk : key = k <;> simp [lookup, hk]

def Json.get (v : Json) (k : List Char) : Option Json :=
  match v with
  | .object es => lookup k es
  | _ => none

def Json.index (v : Json) (i : Nat) : Option Json :=
  match v with
  | .array xs => xs[i]?
  | _ => none

def Json.asStr : Json → Option (List Char)
  | .string s => some s
  | _ => none

/-- serde_json's reader: `from_str::<Value>`, and `Deserializer::deserialize_map` handing a visitor
its `MapAccess`, whose position in the text is a `Cursor`. -/
structure SerdeJson where
  Cursor : Type
  Error : Type
  fromStr : List Char → Except Error Json
  /-- `deserialize_map` up to the visitor: white space and the opening brace. -/
  beginMap : List Char → Except Error Cursor
  /-- `MapAccess::next_key::<String>`, `none` at the closing brace. -/
  nextKey : Cursor → Except Error (Option (List Char × Cursor))
  /-- `MapAccess::next_value::<Value>`. -/
  nextValue : Cursor → Except Error (Json × Cursor)
  /-- `MapAccess::next_value::<IgnoredAny>`. -/
  nextIgnored : Cursor → Except Error Cursor
  /-- `end_map`: the closing brace. -/
  endMap : Cursor → Except Error Unit
  /-- What is left of the text. -/
  size : Cursor → Nat
  nextKey_lt : ∀ c k c', nextKey c = .ok (some (k, c')) → size c' < size c
  nextValue_le : ∀ c v c', nextValue c = .ok (v, c') → size c' ≤ size c
  nextIgnored_le : ∀ c c', nextIgnored c = .ok c' → size c' ≤ size c

namespace SerdeJson

variable (J : SerdeJson) {α : Type}

/-- `Deserializer::deserialize_map`: the visitor on the entries between the braces, its error
before that of `end_map`. -/
def deserializeMap (s : List Char) (visit : J.Cursor → Except J.Error (α × J.Cursor)) : Except J.Error α :=
  match J.beginMap s with
  | .error e => .error e
  | .ok c =>
    match visit c with
    | .error e => .error e
    | .ok (a, c') => (J.endMap c').map fun _ => a

variable {J} {s : List Char} {visit : J.Cursor → Except J.Error (α × J.Cursor)}

lemma deserializeMap_of_visit {c c' : J.Cursor} {a : α} (hb : J.beginMap s = .ok c) (hv : visit c = .ok (a, c'))
    (he : J.endMap c' = .ok ()) : J.deserializeMap s visit = .ok a := by
  rw [deserializeMap, hb]
  dsimp only
  rw [hv]
  dsimp only
  rw [he]
  rfl

lemma deserializeMap_of_beginMap_error {e : J.Error} (hb : J.beginMap s = .error e) :
    J.deserializeMap s visit = .error e := by
  rw [deserializeMap, hb]

/-- The `MapAccess` from a cursor reads these entries in order, each value alike as a `Value` and
as `IgnoredAny`, and then the closing brace. -/
inductive Entries (J : SerdeJson) : J.Cursor → List (List Char × Json) → Prop
  | nil {c} : J.nextKey c = .ok none → J.endMap c = .ok () → Entries J c []
  | cons {c c' c'' k v rest} : J.nextKey c = .ok (some (k, c')) → J.nextValue c' = .ok (v, c'') →
      J.nextIgnored c' = .ok c'' → Entries J c'' rest → Entries J c ((k, v) :: rest)

def ReadsMap (J : SerdeJson) (s : List Char) (entries : List (List Char × Json)) : Prop :=
  ∃ c, J.beginMap s = .ok c ∧ Entries J c entries

/-! ### Laws of serde_json -/

/-- A text `from_str` parses to an object is read by `deserialize_map` entry by entry, the object
keeping the last value under each key (`Map::insert`). -/
def MapsAgree (J : SerdeJson) : Prop :=
  ∀ s es, J.fromStr s = .ok (.object es) → ∃ entries, ReadsMap J s entries ∧ ∀ k, lookup k es = lookup k entries.reverse

def RejectsTrailing (J : SerdeJson) : Prop :=
  ∀ s t es, J.fromStr s = .ok (.object es) → (∃ c ∈ t, isWhitespace c = false) → ∃ e, J.fromStr (s ++ t) = .error e

def MapStopsAtBrace (J : SerdeJson) : Prop :=
  ∀ s t entries, ReadsMap J s entries → ReadsMap J (s ++ t) entries

def RejectsNonObject (J : SerdeJson) : Prop :=
  ∀ s j, J.fromStr s = .ok j → (∀ es, j ≠ .object es) → ∃ e, J.beginMap s = .error e

end SerdeJson

end Library.Serde
