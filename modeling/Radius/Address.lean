/-
# Internet addresses as text

IPv4 addresses and their dotted decimal form, and the recognition of IPv6 addresses, which no
attribute value can hold but which an operator may write. Numbers in dotted form have no leading
zeros; an IPv6 address may close with a dotted IPv4 address and may leave out one run of zero groups.
-/
import Radius.Octets
import Radius.Text.Numeral

namespace Radius

open Text

/-- An IPv4 address, by its four octets. -/
structure Ipv4 where
  first : UInt8
  second : UInt8
  third : UInt8
  fourth : UInt8
deriving DecidableEq

namespace Ipv4

/-- The address in dotted decimal form. -/
def render (address : Ipv4) : String :=
  s!"{address.first}.{address.second}.{address.third}.{address.fourth}"

/-- The octets of the address in network order. -/
def octets (address : Ipv4) : Octets :=
  [address.first, address.second, address.third, address.fourth]

/-- The address that four octets make; none for any other number of octets. -/
def ofOctets? : Octets → Option Ipv4
  | [first, second, third, fourth] => some ⟨first, second, third, fourth⟩
  | _ => none

theorem ofOctets?_eq_some_iff {octets : Octets} {address : Ipv4} :
    ofOctets? octets = some address ↔ octets = address.octets := by
  cases address
  unfold ofOctets? Ipv4.octets
  split <;> simp_all

/-- The first number of a dotted form, and the text after it: at most three digits, the first of
them no zero unless it stands alone, below 256. -/
def number? (text : List Char) : Option (UInt8 × List Char) :=
  let isDigit := fun c => (digit? 10 c).isSome
  let digits := text.takeWhile isDigit
  if digits.length ≤ 3 ∧ (digits.head? = some '0' → digits.length = 1) then
    ((digits? 10 digits).filter (· < 256)).map fun n => (UInt8.ofNat n, text.dropWhile isDigit)
  else none

/-- The text after a leading point. -/
def afterPoint? : List Char → Option (List Char)
  | '.' :: rest => some rest
  | _ => none

/-- The dotted address that a text starts with, and the text after it. -/
def read? (text : List Char) : Option (Ipv4 × List Char) := do
  let (first, rest) ← number? text
  let (second, rest) ← number? (← afterPoint? rest)
  let (third, rest) ← number? (← afterPoint? rest)
  let (fourth, rest) ← number? (← afterPoint? rest)
  return (⟨first, second, third, fourth⟩, rest)

end Ipv4

namespace Ipv6

/-- The text after a group of one to four hexadecimal digits. -/
def afterGroup? (text : List Char) : Option (List Char) :=
  let isDigit := fun c => (digit? 16 c).isSome
  let digits := text.takeWhile isDigit
  if 1 ≤ digits.length ∧ digits.length ≤ 4 then some (text.dropWhile isDigit) else none

/-- The text after the colon that stands before every group but the first. -/
def afterColon? (first : Bool) (text : List Char) : Option (List Char) :=
  match first, text with
  | true, text => some text
  | false, ':' :: rest => some rest
  | false, _ => none

/-- Reads groups while there are any and `slots` are free: how many slots they fill, whether they
close with a dotted address, which fills two, and the text after them. -/
def groups : (slots : Nat) → (first : Bool) → List Char → Nat × Bool × List Char
  | 0, _, text => (0, false, text)
  | slots + 1, first, text =>
    match afterColon? first text with
    | none => (0, false, text)
    | some body =>
      -- a dotted address fills two slots, so one slot has no room for it
      match if slots = 0 then none else Ipv4.read? body with
      | some (_, rest) => (2, true, rest)
      | none =>
        match afterGroup? body with
        | none => (0, false, text)
        | some rest =>
          let (filled, dotted, rest) := groups slots false rest
          (filled + 1, dotted, rest)

/-- Whether a text is an IPv6 address: eight groups, or fewer around one `::`, with a dotted address
only at the end. -/
def isAddress (text : List Char) : Bool :=
  let (filled, dotted, rest) := groups 8 true text
  if filled = 8 then rest.isEmpty
  else if dotted then false
  else
    -- the `::` stands for one zero group at least
    match rest with
    | ':' :: ':' :: rest => (groups (7 - filled) true rest).2.2.isEmpty
    | _ => false

end Ipv6

/-- An address of either family. Of an IPv6 address only the family counts. -/
inductive Address where
  | v4 (address : Ipv4)
  | v6
deriving DecidableEq

/-- Reads a text that is an address and nothing else. -/
def Address.parse? (text : List Char) : Option Address :=
  match Ipv4.read? text with
  | some (address, []) => some (.v4 address)
  | _ => if Ipv6.isAddress text then some .v6 else none

end Radius
