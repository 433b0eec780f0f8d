/-
# Addresses read back

The dotted form of an IPv4 address is read as the address, and as nothing else.  What is read off
the head of a text is said without the reader, for a number (`number?_eq_some_iff`) and for an
address (`read?_eq_some_iff`); an address alone makes a text of its own (`Address.parse?_eq_v4_iff`).
-/
import Radius.Address
import Radius.Proofs.Text.Blank
import Radius.Proofs.Text.Numeral

namespace Radius

open Text

namespace Ipv4

variable {text rest : List Char}

/-- A number below 256 is read off the head of a text that goes on with no digit. -/
lemma number?_append (octet : UInt8) (hrest : ∀ c ∈ rest.head?, (digit? 10 c).isSome = false) :
    number? ((toString octet).toList ++ rest) = some (octet, rest) := by
  have hlt : octet.toNat < 256 := octet.toNat_lt
  have hall : ∀ c ∈ Nat.toDigits 10 octet.toNat, (digit? 10 c).isSome = true := fun c hc =>
    isSome_digit?_of_isDigit (isDigit_of_mem_decimal hc)
  have hlength : (Nat.toDigits 10 octet.toNat).length ≤ 3 :=
    (Nat.length_toDigits_le_iff (by decide) (by decide)).2 (Nat.lt_trans hlt (by decide))
  have hzero : (Nat.toDigits 10 octet.toNat).head? = some '0' →
      (Nat.toDigits 10 octet.toNat).length = 1 := by
    intro hhead
    rcases Nat.eq_zero_or_pos octet.toNat with h | h
    · rw [h, Nat.toDigits_zero, List.length_singleton]
    · exact absurd hhead (head?_toDigits_ne_zero (by decide) h)
  rw [number?, toList_toString_octet]
  -- the digits end where the rest begins
  simp only [takeWhile_run hall hrest, dropWhile_run hall hrest]
  rw [if_pos ⟨hlength, hzero⟩, digits?_decimal, Option.filter_some, if_pos (decide_eq_true hlt),
    Option.map_some, UInt8.ofNat_toNat]

/-- What is read off the head of a text is a number in its shortest form, with all its digits. -/
lemma number?_eq_some_iff {octet : UInt8} :
    number? text = some (octet, rest) ↔
      text = (toString octet).toList ++ rest ∧ ∀ c ∈ rest.head?, (digit? 10 c).isSome = false := by
  constructor
  · intro h
    rw [number?] at h
    split_ifs at h with hshape
    obtain ⟨n, hn, h⟩ := Option.map_eq_some_iff.1 h
    rw [Option.filter_eq_some_iff, decide_eq_true_eq] at hn
    obtain ⟨hoctet, hrest⟩ := Prod.mk.inj h
    have hdigits := eq_toDigits_of_digits? hshape.2 hn.1
    have hnat : octet.toNat = n := by
      rw [← hoctet, UInt8.toNat_ofNat_of_lt' hn.2]
    refine ⟨?_, head?_dropWhile hrest⟩
    rw [toList_toString_octet, hnat, ← hdigits, ← hrest, List.takeWhile_append_dropWhile]
  · rintro ⟨rfl, hrest⟩
    exact number?_append octet hrest

lemma afterPoint?_eq_some_iff : afterPoint? text = some rest ↔ text = '.' :: rest := by
  unfold afterPoint?
  split <;> simp_all

lemma toList_render (address : Ipv4) :
    address.render.toList = (toString address.first).toList ++ '.' ::
      ((toString address.second).toList ++ '.' ::
        ((toString address.third).toList ++ '.' :: (toString address.fourth).toList)) := by
  have hpoint : (toString ".").toList = ['.'] := rfl
  simp [render, String.toList_append, hpoint]

/-- The text that an address is read off starts with its dotted form, and goes on with no digit. -/
lemma read?_eq_some_iff {address : Ipv4} :
    read? text = some (address, rest) ↔
      text = address.render.toList ++ rest ∧ ∀ c ∈ rest.head?, (digit? 10 c).isSome = false := by
  constructor
  · intro h
    obtain ⟨⟨first, rest₁⟩, h₁, h⟩ := Option.bind_eq_some_iff.1 h
    obtain ⟨text₂, hpoint₁, h⟩ := Option.bind_eq_some_iff.1 h
    obtain ⟨⟨second, rest₂⟩, h₂, h⟩ := Option.bind_eq_some_iff.1 h
    obtain ⟨text₃, hpoint₂, h⟩ := Option.bind_eq_some_iff.1 h
    obtain ⟨⟨third, rest₃⟩, h₃, h⟩ := Option.bind_eq_some_iff.1 h
    obtain ⟨text₄, hpoint₃, h⟩ := Option.bind_eq_some_iff.1 h
    obtain ⟨⟨fourth, rest₄⟩, h₄, h⟩ := Option.bind_eq_some_iff.1 h
    obtain ⟨rfl, rfl⟩ := Prod.mk.inj (Option.some.inj h)
    obtain ⟨rfl, -⟩ := number?_eq_some_iff.1 h₁
    obtain rfl := afterPoint?_eq_some_iff.1 hpoint₁
    obtain ⟨rfl, -⟩ := number?_eq_some_iff.1 h₂
    obtain rfl := afterPoint?_eq_some_iff.1 hpoint₂
    obtain ⟨rfl, -⟩ := number?_eq_some_iff.1 h₃
    obtain rfl := afterPoint?_eq_some_iff.1 hpoint₃
    obtain ⟨rfl, hrest⟩ := number?_eq_some_iff.1 h₄
    refine ⟨?_, hrest⟩
    simp only [toList_render, List.append_assoc, List.cons_append]
  · rintro ⟨rfl, hrest⟩
    have hpoint : ∀ rest : List Char, ∀ c ∈ ('.' :: rest).head?, (digit? 10 c).isSome = false := by
      rintro rest c hc
      obtain rfl := Option.some.inj hc
      rfl
    simp only [read?, toList_render, List.append_assoc, List.cons_append,
      number?_append _ (hpoint _), afterPoint?, number?_append _ hrest, Option.bind_eq_bind,
      Option.bind_some, Option.pure_def]

end Ipv4

/-- An address that is shown in dotted form is read as it was, and no other text is. -/
lemma Address.parse?_eq_v4_iff {text : List Char} {address : Ipv4} :
    Address.parse? text = some (.v4 address) ↔ text = address.render.toList := by
  have hread : ∀ found, Ipv4.read? text = some (found, []) ↔ text = found.render.toList := by
    intro found
    rw [Ipv4.read?_eq_some_iff, List.append_nil]
    simp
  rw [Address.parse?]
  constructor
  · intro h
    split at h
    · rename_i found hfound
      obtain rfl : found = address := Address.v4.inj (Option.some.inj h)
      exact (hread found).1 hfound
    · split at h <;> cases h
  · intro h
    rw [(hread address).2 h]

/-- The dotted form has only digits and points. -/
lemma Ipv4.mem_render {address : Ipv4} {c : Char} (h : c ∈ address.render.toList) :
    c.isDigit = true ∨ c = '.' := by
  have hnumber : ∀ octet : UInt8, c ∈ (toString octet).toList → c.isDigit = true := by
    intro octet hc
    rw [toList_toString_octet] at hc
    exact isDigit_of_mem_decimal hc
  simp only [toList_render, List.mem_append, List.mem_cons] at h
  rcases h with h | rfl | h | rfl | h | rfl | h
  · exact .inl (hnumber _ h)
  · exact .inr rfl
  · exact .inl (hnumber _ h)
  · exact .inr rfl
  · exact .inl (hnumber _ h)
  · exact .inr rfl
  · exact .inl (hnumber _ h)

lemma Ipv4.isBlank_of_mem_render {address : Ipv4} {c : Char} (h : c ∈ address.render.toList) :
    isBlank c = false := by
  rcases mem_render h with hdigit | rfl
  · exact isBlank_of_isDigit hdigit
  · rfl

end Radius
