/-
# Characters as octets

The UTF-8 form of text. `Utf8.encode` writes each character in its shortest form; `Utf8.decode`
accepts shortest forms of scalar values only (the well-formed sequences of the Unicode standard,
table 3-7) and otherwise says where the first fault lies and how many octets it spans.
-/
import Radius.Octets

namespace Radius.Text.Utf8

/-- The first place where octets stop being UTF-8. -/
structure Fault where
  /-- How many octets before it are well-formed. -/
  index : Nat
  /-- How many octets the ill-formed sequence spans; none if the octets break off inside one. -/
  width : Option Nat
deriving DecidableEq

/-- The fault in words. -/
def Fault.message : Fault → String
  | ⟨index, some width⟩ => s!"invalid utf-8 sequence of {width} bytes from index {index}"
  | ⟨index, none⟩ => s!"incomplete utf-8 byte sequence from index {index}"

/-- The UTF-8 form of a text. -/
def encode (text : List Char) : Octets :=
  text.flatMap String.utf8EncodeChar

/-- Whether an octet continues a sequence: `10xxxxxx`. -/
def isTrailing (octet : UInt8) : Bool :=
  decide (0x80 ≤ octet) && decide (octet ≤ 0xBF)

/-- Whether `second` may follow the leading octet `first`. After `E0` and `F0` the lowest octets
would spell a character that has a shorter form, after `ED` the highest ones a surrogate, and after
`F4` the highest ones a number beyond the last code point. -/
def isSecond (first second : UInt8) : Bool :=
  let low := if first = 0xE0 then 0xA0 else if first = 0xF0 then 0x90 else 0x80
  let high := if first = 0xED then 0x9F else if first = 0xF4 then 0x8F else 0xBF
  decide (low ≤ second) && decide (second ≤ high)

/-- The character whose number is spelled by the low bits of a leading octet, of which there are
`width` values, and six bits of each further octet. -/
def scalar (width : Nat) (first : UInt8) (trailing : Octets) : Char :=
  Char.ofNat (trailing.foldl (fun n octet => n * 64 + octet.toNat % 64) (first.toNat % width))

/-- Reads the text of `octets`, which start `index` octets into the whole. -/
def decodeFrom (index : Nat) : Octets → Except Fault (List Char)
  | [] => .ok []
  | a :: rest =>
    if a < 0x80 then
      (scalar 128 a [] :: ·) <$> decodeFrom (index + 1) rest
    else if a < 0xC2 then
      .error ⟨index, some 1⟩
    else if a < 0xE0 then
      match rest with
      | [] => .error ⟨index, none⟩
      | b :: rest =>
        if isSecond a b then (scalar 32 a [b] :: ·) <$> decodeFrom (index + 2) rest
        else .error ⟨index, some 1⟩
    else if a < 0xF0 then
      match rest with
      | [] => .error ⟨index, none⟩
      | [b] => .error ⟨index, if isSecond a b then none else some 1⟩
      | b :: c :: rest =>
        if !isSecond a b then .error ⟨index, some 1⟩
        else if isTrailing c then (scalar 16 a [b, c] :: ·) <$> decodeFrom (index + 3) rest
        else .error ⟨index, some 2⟩
    else if a < 0xF5 then
      match rest with
      | [] => .error ⟨index, none⟩
      | [b] => .error ⟨index, if isSecond a b then none else some 1⟩
      | [b, c] =>
        .error ⟨index, if !isSecond a b then some 1 else if isTrailing c then none else some 2⟩
      | b :: c :: d :: rest =>
        if !isSecond a b then .error ⟨index, some 1⟩
        else if !isTrailing c then .error ⟨index, some 2⟩
        else if isTrailing d then (scalar 8 a [b, c, d] :: ·) <$> decodeFrom (index + 4) rest
        else .error ⟨index, some 3⟩
    else .error ⟨index, some 1⟩

/-- Reads the text that octets spell. -/
def decode (octets : Octets) : Except Fault (List Char) :=
  decodeFrom 0 octets

end Radius.Text.Utf8
