/-
# JSON values as they are read

A value read from a document. Of numbers only their presence is kept; a string is none where it is
no text, and the members of an object keep their order and their repetitions. Values are put
together from tokens one at a time: what is open around the place that has been reached is held on a
stack.
-/
import Radius.Json.Token

namespace Radius.Json

/-- A value read from a document. -/
inductive Node where
  | null
  | bool (value : Bool)
  | number
  | string (content : Option String)
  | array (items : List Node)
  | object (members : List (Option String × Node))

namespace Node

/-- An array or an object whose end has not been reached. What it holds so far is held last first. -/
inductive Open where
  | array (items : List Node)
  /-- An object whose member `key` is being read. -/
  | object (members : List (Option String × Node)) (key : Option String)

/-- What may come next. -/
inductive Expected where
  | value
  /-- The first item of an array, or its end. -/
  | firstItem
  /-- The first key of an object, or its end. -/
  | firstKey
  /-- A further key of an object that has the given members. -/
  | key (members : List (Option String × Node))
  /-- The colon after a key. -/
  | colon (members : List (Option String × Node)) (key : Option String)
  /-- What follows a value. -/
  | after (node : Node)

/-- Reads the token with which a value starts. -/
def start (stack : List Open) : Token → Option (Expected × List Open)
  | .null => some (.after .null, stack)
  | .bool value => some (.after (.bool value), stack)
  | .number => some (.after .number, stack)
  | .string content => some (.after (.string content), stack)
  | .openArray => some (.firstItem, .array [] :: stack)
  | .openObject => some (.firstKey, stack)
  | _ => none

/-- Reads one token. -/
def step : Expected × List Open → Token → Option (Expected × List Open)
  | (.value, stack), token => start stack token
  | (.firstItem, .array _ :: stack), .closeArray => some (.after (.array []), stack)
  | (.firstItem, stack), token => start stack token
  | (.firstKey, stack), .closeObject => some (.after (.object []), stack)
  | (.firstKey, stack), .string key => some (.colon [] key, stack)
  | (.key members, stack), .string key => some (.colon members key, stack)
  | (.colon members key, stack), .colon => some (.value, .object members key :: stack)
  | (.after node, .array items :: stack), .comma => some (.value, .array (node :: items) :: stack)
  | (.after node, .array items :: stack), .closeArray =>
    some (.after (.array (node :: items).reverse), stack)
  | (.after node, .object members key :: stack), .comma => some (.key ((key, node) :: members), stack)
  | (.after node, .object members key :: stack), .closeObject =>
    some (.after (.object ((key, node) :: members).reverse), stack)
  | _, _ => none

/-- The value that tokens spell. -/
def ofTokens? (tokens : List Token) : Option Node := do
  match ← tokens.foldlM step (.value, []) with
  | (.after node, []) => some node
  | _ => none

/-- The value that a text spells. -/
def parse? (text : String) : Option Node :=
  (tokens? text.toList).bind ofTokens?

end Node

end Radius.Json
