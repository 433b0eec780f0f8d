/-
# Hexadecimal octets

Octets spelled with two hexadecimal digits each. Writing uses small letters; reading takes either
case and reports the first character that is no digit by its place among the UTF-8 octets of the
text.
-/
import Radius.Text.Blank
import Radius.Text.Numeral
import Radius.Text.Quoted
import Radius.Text.Utf8

namespace Radius.Text.Hex

/-- Why a text does not spell octets. -/
inductive Fault where
  /-- The text has an odd number of octets. -/
  | oddLength
  /-- The first octet that is no digit, and its place. -/
  | invalidDigit (octet : UInt8) (index : Nat)
deriving DecidableEq

/-- The fault in words; the octet is shown as the character with its number. -/
def Fault.message : Fault → String
  | oddLength => "Odd number of digits"
  | invalidDigit octet index =>
    "Invalid character " ++ quoteChar (Char.ofNat octet.toNat) ++ s!" at position {index}"

/-- The two digits of an octet. -/
def digits (octet : UInt8) : List Char :=
  [Nat.digitChar (octet.toNat / 16), Nat.digitChar (octet.toNat % 16)]

/-- The spelling of octets, in small letters. -/
def encode (octets : Octets) : List Char :=
  octets.flatMap digits

/-- The spelling of octets as a string. -/
def render (octets : Octets) : String :=
  String.ofList (encode octets)

/-- The worth of the digit that stands `index` octets into the text. -/
def digit (index : Nat) (c : Char) : Except Fault Nat :=
  match digit? 16 c with
  | some worth => .ok worth
  | none => .error (.invalidDigit ((String.utf8EncodeChar c).headD 0) index)

/-- Reads pairs of digits, the first of which stands `index` octets into the text. -/
def pairs (index : Nat) : List Char → Except Fault Octets
  | [] => .ok []
  | [c] => do
    let _ ← digit index c
    .error .oddLength
  | high :: low :: rest => do
    let high ← digit index high
    let low ← digit (index + 1) low
    let octets ← pairs (index + 2) rest
    return UInt8.ofNat (high * 16 + low) :: octets

/-- Reads octets spelled with two digits each. An odd number of octets in the text is reported
before any invalid digit. -/
def decode (text : List Char) : Except Fault Octets :=
  if (Utf8.encode text).length % 2 = 1 then .error .oddLength else pairs 0 text

/-- A text without one leading `0x` or `0X`. -/
def withoutMark : List Char → List Char
  | '0' :: 'x' :: rest => rest
  | '0' :: 'X' :: rest => rest
  | text => text

/-- Reads octets from what an operator pastes: blanks around, one mark in front, and blanks and
colons anywhere after it do not count. -/
def decodePasted (text : List Char) : Except Fault Octets :=
  decode ((withoutMark (trim text)).filter fun c => !isBlank c && c != ':')

end Radius.Text.Hex
