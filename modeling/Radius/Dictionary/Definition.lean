/-
# Attribute definitions

What a dictionary says of one vendor attribute: its name, code and type, its flags, and the names of
its values. A definition reads and writes the octets of its attribute's values, with the tag that
attributes flagged `has_tag` may carry: an integer keeps its tag in the first of its four octets,
where 0 stands for none; text and opaque octets start with a tag if their first octet is one of the
tags 1 to 31.
-/
import Radius.Dictionary.Error
import Radius.Value

namespace Radius

open Text

/-- A name for a number that an attribute can have as its value. -/
structure NamedValue where
  name : String
  number : Int32
deriving DecidableEq

/-- Gives a name to a number. A name that is there, in any letter case, keeps its place and spelling
and takes the new number. -/
def NamedValue.declare (name : String) (number : Int32) : List NamedValue → List NamedValue
  | [] => [⟨name, number⟩]
  | v :: rest =>
    if sameName v.name name then ⟨v.name, number⟩ :: rest else v :: declare name number rest

/-- A dictionary's definition of a vendor attribute. -/
structure Definition where
  name : String
  /-- The sub-type. -/
  code : UInt8
  /-- The type as the dictionary spells it. -/
  typeName : String
  flags : List String := []
  /-- The named values, in the order in which their names were first declared. -/
  values : List NamedValue := []
deriving DecidableEq

/-- Whether an octet is a tag. -/
def isTag (octet : UInt8) : Bool :=
  decide (1 ≤ octet) && decide (octet ≤ 31)

namespace Definition

/-- The kind of value the type stands for. -/
def kind (d : Definition) : Kind :=
  Kind.ofTypeName d.typeName

/-- Whether the attribute's values may carry a tag. -/
def hasTag (d : Definition) : Bool :=
  d.flags.contains "has_tag"

/-- The number that a name stands for, in any letter case. -/
def number? (d : Definition) (name : String) : Option Int32 :=
  (d.values.find? fun v => sameName v.name name).map (·.number)

/-- The first name declared for a number. -/
def nameOf? (d : Definition) (number : Int32) : Option String :=
  (d.values.find? fun v => v.number == number).map (·.name)

/-- The definition with a name given to a number. -/
def declareValue (d : Definition) (name : String) (number : Int32) : Definition :=
  { d with values := NamedValue.declare name number d.values }

/-- Reads the octets of a value into its tag, if any, and the value. -/
def decodeValue (d : Definition) (wire : Octets) :
    Except AttributeError (Option UInt8 × Value) :=
  let untagged := (Prod.mk none) <$> Value.decode d.kind wire
  if !d.hasTag then untagged
  else
    match d.kind, wire with
    | .integer, tag :: rest => do
      -- the tag's octet counts for the length and not for the number
      let number ← Value.decodeInteger (0 :: rest)
      return (if tag = 0 then none else some tag, .integer number)
    | .text, first :: rest =>
      if isTag first then (Prod.mk (some first)) <$> Value.decode .text rest else untagged
    | .octets, first :: rest =>
      if isTag first then (Prod.mk (some first)) <$> Value.decode .octets rest else untagged
    | _, _ => untagged

/-- The octets of a value and its tag. The value must be of the attribute's kind, a tag must be one
that the attribute takes, and a number beside a tag must fit in 24 bits. -/
def encodeValue (d : Definition) (tag : Option UInt8) (value : Value) :
    Except DictionaryError Octets :=
  if value.kind ≠ d.kind then .error (.badAttribute (.kindMismatch d.kind value.kind))
  else if tag.isSome ∧ (!d.hasTag ∨ d.kind = .ipv4) then .error (.unexpectedTag d.name)
  else
    match tag.filter (!isTag ·) with
    | some tag => .error (.badAttribute (.invalidTag tag))
    | none =>
      match value, tag with
      | .integer number, tag =>
        if !d.hasTag then .ok value.encode
        else if 0 ≤ number ∧ number ≤ 0x00FFFFFF then
          .ok (tag.getD 0 :: Octets.ofNat 3 number.toUInt32.toNat)
        else .error (.badAttribute (.taggedIntegerRange number))
      | value, some tag => .ok (tag :: value.encode)
      | value, none => .ok value.encode

end Definition

end Radius
