/-
# Describing and validating

What the validation of a vendor attribute finds and what the dictionary can say of it come from the
same reading of the value.  There is no description exactly where the attribute is known and its
value cannot be read (`describe_eq_error_iff`), and this is also the one violation that the lenient
mode finds (`violation?_lenient_eq_some_iff`).  The strict mode finds every violation that the
lenient mode finds, and the same one (`violation?_of_lenient`).
-/
import Mathlib.Tactic.Lemma
import Mathlib.Tactic.SplitIfs
import Radius.Validation

namespace Radius

namespace Definition

variable {definition : Definition} {wire : Octets} {tag : Option UInt8} {value : Value}
  {violation : Violation}

/-- The lenient mode finds fault only with values that cannot be read. -/
lemma violation?_lenient_eq_some_iff :
    definition.violation? .lenient wire = some violation ↔
      ∃ e, definition.decodeValue wire = .error e ∧
        violation = .invalidValue definition.name e := by
  rw [violation?]
  cases definition.decodeValue wire with
  | error e => simp [eq_comm]
  | ok read => simp

/-- A value that cannot be read is a violation in both modes. -/
lemma violation?_of_unreadable {e : AttributeError} (h : definition.decodeValue wire = .error e)
    (mode : Mode) : definition.violation? mode wire = some (.invalidValue definition.name e) := by
  rw [violation?, h]

lemma unlisted?_eq_some_iff {number : Int32} :
    definition.unlisted? value = some number ↔
      value = .integer number ∧ definition.nameOf? number = none ∧ definition.values ≠ [] := by
  cases value with
  | integer n =>
      simp only [unlisted?, Bool.not_eq_true', List.isEmpty_eq_false_iff, Option.isNone_iff_eq_none,
        Value.integer.injEq]
      constructor
      · intro h
        split_ifs at h with hlisted
        obtain rfl := Option.some.inj h
        exact ⟨rfl, hlisted.2, hlisted.1⟩
      · rintro ⟨rfl, hname, hvalues⟩
        rw [if_pos ⟨hvalues, hname⟩]
  | text content | ipv4 address | octets content => simp [unlisted?]

/-- Of a value that can be read the strict mode finds a number without a name, where others have
one. -/
lemma violation?_strict_eq_some_iff (hread : definition.decodeValue wire = .ok (tag, value)) :
    definition.violation? .strict wire = some violation ↔
      ∃ number, value = .integer number ∧ definition.nameOf? number = none ∧
        definition.values ≠ [] ∧ violation = .unlistedValue definition.name number := by
  rw [violation?, hread]
  simp only [Option.map_eq_some_iff, unlisted?_eq_some_iff, and_assoc, eq_comm (b := violation)]

lemma nameOf?_eq_none_iff {number : Int32} :
    definition.nameOf? number = none ↔ ¬ ∃ w ∈ definition.values, w.number = number := by
  simp [nameOf?]

/-- The strict mode lets a number pass that has a name, and any number where none has. -/
lemma violation?_strict_eq_none_iff {number : Int32}
    (hread : definition.decodeValue wire = .ok (tag, .integer number)) :
    definition.violation? .strict wire = none ↔
      definition.values = [] ∨ ∃ w ∈ definition.values, w.number = number := by
  rw [Option.eq_none_iff_forall_ne_some]
  constructor
  · intro h
    refine Classical.byContradiction fun hnot => ?_
    obtain ⟨hvalues, hlisted⟩ := not_or.1 hnot
    exact h _ ((violation?_strict_eq_some_iff hread).2
      ⟨number, rfl, nameOf?_eq_none_iff.2 hlisted, hvalues, rfl⟩)
  · intro h violation hviolation
    obtain ⟨number', hvalue, hname, hvalues, -⟩ :=
      (violation?_strict_eq_some_iff hread).1 hviolation
    obtain rfl := Value.integer.inj hvalue
    exact h.elim hvalues (nameOf?_eq_none_iff.1 hname)

end Definition

namespace Dictionary

variable {d : Dictionary} {a : VendorSpecific} {violation : Violation}

/-! ### Vendor attributes -/

/-- Only the value of a known attribute can stand in the way of a description. -/
lemma describe_eq_error_iff {error : DictionaryError} :
    d.describe a = .error error ↔
      ∃ v definition e, d.vendor? a.vendor = some v ∧ v.attributeOf? a.subType = some definition ∧
        definition.decodeValue a.value = .error e ∧ error = .badAttribute e := by
  rw [describe]
  cases hvendor : d.vendor? a.vendor with
  | none => simp
  | some v =>
      -- a vendor is found under its own number
      have hid : v.id = a.vendor := by
        simpa using List.find?_some hvendor
      simp only [Vendor.describe, hid, ne_eq, not_true, if_false]
      cases hknown : v.attributeOf? a.subType with
      | none => simp [hknown]
      | some definition =>
          cases hread : definition.decodeValue a.value with
          | error e => simp [hknown, hread, eq_comm]
          | ok read => simp [hknown, hread]

/-- Only the value of a known attribute is a violation in the lenient mode. -/
lemma violation?_lenient_eq_some_iff :
    d.violation? .lenient a = some violation ↔
      ∃ v definition e, d.vendor? a.vendor = some v ∧ v.attributeOf? a.subType = some definition ∧
        definition.decodeValue a.value = .error e ∧
        violation = .invalidValue definition.name e := by
  rw [violation?]
  cases hvendor : d.vendor? a.vendor with
  | none => simp
  | some v =>
      cases hknown : v.attributeOf? a.subType with
      | none => simp [hknown]
      | some definition => simp [hknown, Definition.violation?_lenient_eq_some_iff]

/-- What the lenient mode finds, both modes find. -/
lemma violation?_of_lenient (h : d.violation? .lenient a = some violation) (mode : Mode) :
    d.violation? mode a = some violation := by
  obtain ⟨v, definition, e, hvendor, hknown, hread, rfl⟩ := violation?_lenient_eq_some_iff.1 h
  simp only [violation?, hvendor, hknown, Definition.violation?_of_unreadable hread]

/-- A vendor attribute without a description is a violation in both modes. -/
lemma violation?_ne_none_of_describe {error : DictionaryError} (h : d.describe a = .error error)
    (mode : Mode) : d.violation? mode a ≠ none := by
  obtain ⟨v, definition, e, hvendor, hknown, hread, -⟩ := describe_eq_error_iff.1 h
  have hlenient := violation?_lenient_eq_some_iff.2 ⟨v, definition, e, hvendor, hknown, hread, rfl⟩
  simp [violation?_of_lenient hlenient mode]

/-- What is valid in the strict mode is valid in both. -/
lemma violation?_eq_none_of_strict (h : d.violation? .strict a = none) (mode : Mode) :
    d.violation? mode a = none := by
  cases mode with
  | strict => exact h
  | lenient =>
      cases hlenient : d.violation? .lenient a with
      | none => rfl
      | some violation =>
          rw [violation?_of_lenient hlenient] at h
          simp at h

/-- The value of a known attribute is judged by the attribute's definition. -/
lemma violation?_of_known {v : Vendor} {e : Definition} (hvendor : d.vendor? a.vendor = some v)
    (hknown : v.attributeOf? a.subType = some e) (mode : Mode) :
    d.violation? mode a = e.violation? mode a.value := by
  simp only [violation?, hvendor, hknown]

/-- Where a number has a name, the strict mode finds nothing wrong with it. -/
lemma violation?_strict_eq_none {v : Vendor} {e : Definition} {tag : Option UInt8}
    {number : Int32} (hvendor : d.vendor? a.vendor = some v)
    (hknown : v.attributeOf? a.subType = some e)
    (hread : e.decodeValue a.value = .ok (tag, .integer number))
    (hlisted : ∃ w ∈ e.values, w.number = number) : d.violation? .strict a = none := by
  rw [violation?_of_known hvendor hknown]
  exact (Definition.violation?_strict_eq_none_iff hread).2 (.inr hlisted)

/-- A vendor attribute is described by the table of its vendor alone. -/
lemma describe_congr {d' : Dictionary} (h : d.vendor? a.vendor = d'.vendor? a.vendor) :
    d.describe a = d'.describe a := by
  rw [describe, describe, h]

/-- A vendor attribute is validated by the table of its vendor alone. -/
lemma violation?_congr {d' : Dictionary} (h : d.vendor? a.vendor = d'.vendor? a.vendor)
    (mode : Mode) : d.violation? mode a = d'.violation? mode a := by
  unfold violation?
  rw [h]

/-! ### Packets -/

lemma attributeViolation?_eq_none_of_strict {a : Attribute}
    (h : d.attributeViolation? .strict a = none) (mode : Mode) :
    d.attributeViolation? mode a = none := by
  unfold attributeViolation? at h ⊢
  by_cases htype : a.type = StandardType.vendorSpecific
  · rw [if_pos htype] at h ⊢
    cases hheld : VendorSpecific.allOfAttribute a with
    | error e => simp [hheld] at h
    | ok held =>
        simp only [hheld, List.findSome?_eq_none_iff] at h ⊢
        intro v hv
        exact violation?_eq_none_of_strict (h v hv) mode
  · rw [if_neg htype] at h ⊢
    exact h

lemma packetViolation?_eq_none_of_strict {p : Packet} (h : d.packetViolation? .strict p = none)
    (mode : Mode) : d.packetViolation? mode p = none := by
  rw [packetViolation?, List.findSome?_eq_none_iff] at h ⊢
  intro a ha
  exact attributeViolation?_eq_none_of_strict (h a ha) mode

end Dictionary

end Radius
