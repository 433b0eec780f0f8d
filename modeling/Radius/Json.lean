/-
# JSON documents

The documents this library writes: their members keep their order, their numbers are whole, and they
are laid out over several lines, two spaces deeper at each level.
-/

namespace Radius

/-- A document to be written. -/
inductive Json where
  | null
  | bool (value : Bool)
  | number (value : Int)
  | string (value : String)
  | array (items : List Json)
  | object (members : List (String × Json))

namespace Json

/-- A character inside a string. Quotation marks, backslashes and controls are escaped; the controls
without a letter of their own are spelled by number. -/
def escape (c : Char) : List Char :=
  match c with
  | '"' => ['\\', '"']
  | '\\' => ['\\', '\\']
  | '\x08' => ['\\', 'b']
  | '\x0c' => ['\\', 'f']
  | '\n' => ['\\', 'n']
  | '\r' => ['\\', 'r']
  | '\t' => ['\\', 't']
  | c =>
    if c.toNat < 0x20 then
      ['\\', 'u', '0', '0', Nat.digitChar (c.toNat / 16), Nat.digitChar (c.toNat % 16)]
    else [c]

/-- A string between quotation marks. -/
def quote (text : String) : List Char :=
  '"' :: text.toList.flatMap escape ++ ['"']

/-- A new line at the given depth. -/
def newline (depth : Nat) : List Char :=
  '\n' :: List.replicate (2 * depth) ' '

mutual

/-- The document as it is laid out at the given depth. -/
def layout (depth : Nat) : Json → List Char
  | null => "null".toList
  | bool value => if value then "true".toList else "false".toList
  | number value => (toString value).toList
  | string value => quote value
  | array [] => ['[', ']']
  | array (item :: rest) =>
    '[' :: newline (depth + 1) ++ layout (depth + 1) item ++ layoutItems (depth + 1) rest
      ++ newline depth ++ [']']
  | object [] => ['\x7b', '\x7d']
  | object ((name, value) :: rest) =>
    '\x7b' :: newline (depth + 1) ++ quote name ++ ':' :: ' ' :: layout (depth + 1) value
      ++ layoutMembers (depth + 1) rest ++ newline depth ++ ['\x7d']

/-- Further items, each after a comma and on a line of its own. -/
def layoutItems (depth : Nat) : List Json → List Char
  | [] => []
  | item :: rest => ',' :: newline depth ++ layout depth item ++ layoutItems depth rest

/-- Further members, each after a comma and on a line of its own. -/
def layoutMembers (depth : Nat) : List (String × Json) → List Char
  | [] => []
  | (name, value) :: rest =>
    ',' :: newline depth ++ quote name ++ ':' :: ' ' :: layout depth value
      ++ layoutMembers depth rest

end

/-- The text of a document, without a line feed at its end. -/
def render (document : Json) : String :=
  String.ofList (layout 0 document)

/-- A member that is there only if it has a value. -/
def member? (name : String) (value : Option Json) : List (String × Json) :=
  value.toList.map (name, ·)

end Json

end Radius
