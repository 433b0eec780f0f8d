/-
# Attributes

An attribute is a type, a length and a value. The length octet counts the two octets before the
value as well, so a value has at most 253 octets on the wire; an attribute that is only held may be
longer, and `encode` refuses it. `decode` reads the attribute at the head of the octets and returns
what follows it.
-/
import Radius.Value

namespace Radius

/-- An attribute: its type octet and the octets of its value. -/
structure Attribute where
  type : UInt8
  value : Octets
deriving DecidableEq

namespace Attribute

/-- The most octets a value can have on the wire. -/
def maxValueLength : Nat := 253

/-- An attribute whose value fits on the wire. -/
def new (type : UInt8) (value : Octets) : Except AttributeError Attribute :=
  if value.length ≤ maxValueLength then .ok ⟨type, value⟩
  else .error (.valueTooLong value.length maxValueLength)

/-- The attribute that carries a typed value. -/
def ofValue (type : UInt8) (value : Value) : Except AttributeError Attribute :=
  new type value.encode

/-- The number of octets the attribute takes on the wire. -/
def length (a : Attribute) : Nat :=
  2 + a.value.length

/-- The number of octets that attributes take one after the other. -/
def lengthAll : List Attribute → Nat
  | [] => 0
  | a :: rest => a.length + lengthAll rest

/-- The wire form: type, length, value. -/
def encode (a : Attribute) : Except AttributeError Octets :=
  if a.value.length ≤ maxValueLength then .ok (a.type :: UInt8.ofNat a.length :: a.value)
  else .error (.valueTooLong a.value.length maxValueLength)

/-- The wire form of attributes one after the other, or the error of the first that has none. -/
def encodeAll : List Attribute → Except AttributeError Octets
  | [] => .ok []
  | a :: rest => do return (← a.encode) ++ (← encodeAll rest)

/-- Reads the attribute at the head of the octets; the second result is what follows it. -/
def decode : Octets → Except AttributeError (Attribute × Octets)
  | type :: declared :: body =>
    let length := declared.toNat
    if length < 2 then .error (.truncated length 2)
    else if body.length + 2 < length then .error (.lengthMismatch length (body.length + 2))
    else .ok (⟨type, body.take (length - 2)⟩, body.drop (length - 2))
  | octets => .error (.truncated octets.length 2)

/-- Reading an attribute takes at least two octets. -/
theorem length_lt_of_decode {octets rest : Octets} {a : Attribute}
    (h : decode octets = .ok (a, rest)) : rest.length + 2 ≤ octets.length := by
  unfold decode at h
  split at h
  · simp only at h
    split at h
    · simp at h
    split at h
    · simp at h
    · simp only [Except.ok.injEq, Prod.mk.injEq] at h
      simp [← h.2]
  · simp at h

/-- Reads attributes until no octets are left. -/
def decodeAll (octets : Octets) : Except AttributeError (List Attribute) :=
  if octets = [] then .ok []
  else
    match h : decode octets with
    | .error e => .error e
    | .ok (a, rest) =>
      have : rest.length < octets.length := by have := length_lt_of_decode h; omega
      (a :: ·) <$> decodeAll rest
termination_by octets.length

/-- The value read as the given kind. -/
def valueAs (a : Attribute) (kind : Kind) : Except AttributeError Value :=
  Value.decode kind a.value

end Attribute

end Radius
