/-
# Dictionary text

Dictionary text is read line by line. A line is cut at its first `#` and split into words; its first
word is the directive and the others are its fields. This module turns text into numbered lines and
a line's words into a directive with the fields it needs. What a directive means is the business of
`Radius.Dictionary.Loading`.
-/
import Radius.Dictionary.Error
import Radius.Text.Blank
import Radius.Text.Lines

namespace Radius

open Text

/-- A line of dictionary text. -/
structure SourceLine where
  /-- Its number, counted from one. -/
  number : Nat
  /-- Its words, without the comment. -/
  words : List String
deriving DecidableEq

/-- The lines of dictionary text, numbered from `first` on. -/
def SourceLine.ofText (text : String) : List SourceLine :=
  ((lines text.toList).zipIdx 1).map fun (line, number) =>
    ⟨number, (Text.words (withoutComment line)).map String.ofList⟩

/-- A directive of dictionary text, with the fields it cannot do without and those that it looks
at. Numbers are still text: they are read only when all else about the line is in order. -/
inductive Directive where
  /-- `VENDOR name number [format]` -/
  | declareVendor (name number : String) (format : Option String)
  /-- `BEGIN-VENDOR name` -/
  | beginBlock (name : String)
  /-- `END-VENDOR name` -/
  | endBlock (name : String)
  /-- `ATTRIBUTE name code type [fourth [fifth]]` -/
  | declareAttribute (name code typeName : String) (fourth fifth : Option String)
  /-- `VALUE attribute name number` -/
  | declareValue (owner name number : String)
  /-- Any other first word. -/
  | unsupported (keyword : String)
deriving DecidableEq

/-- The directive that a line's words make. -/
def Directive.ofWords (keyword : String) (fields : List String) : Except SourceFault Directive :=
  if keyword = "VENDOR" then
    match fields with
    | [] => .error (.missingField "VENDOR" "vendor name")
    | [_] => .error (.missingField "VENDOR" "vendor id")
    | name :: number :: rest => .ok (.declareVendor name number rest.head?)
  else if keyword = "BEGIN-VENDOR" then
    match fields with
    | [] => .error (.missingField "BEGIN-VENDOR" "vendor name")
    | name :: _ => .ok (.beginBlock name)
  else if keyword = "END-VENDOR" then
    match fields with
    | [] => .error (.missingField "END-VENDOR" "vendor name")
    | name :: _ => .ok (.endBlock name)
  else if keyword = "ATTRIBUTE" then
    match fields with
    | [] => .error (.missingField "ATTRIBUTE" "name")
    | [_] => .error (.missingField "ATTRIBUTE" "code")
    | [_, _] => .error (.missingField "ATTRIBUTE" "type")
    | name :: code :: typeName :: rest =>
      .ok (.declareAttribute name code typeName rest.head? rest.tail.head?)
  else if keyword = "VALUE" then
    match fields with
    | [] => .error (.missingField "VALUE" "attribute name")
    | [_] => .error (.missingField "VALUE" "value name")
    | [_, _] => .error (.missingField "VALUE" "number")
    | owner :: name :: number :: _ => .ok (.declareValue owner name number)
  else .ok (.unsupported keyword)

end Radius
